import LwipExt.UdpCmd.Authentication
import LwipExt.UdpCmd.ConfigText
import LwipExt.UdpCmd.Values

/-!
Which user and password strings the check accepts.

Each string of the request is cut to the local array and compared up to the length of the stored
one. A stored string fits the array, so the cut loses nothing of the comparison, and what is
accepted is every string that begins with the stored one (`accepts_iff`).
-/

namespace LwipExt.UdpCmd

/-- The string of a key, in full. -/
def Json.textAt (j : Json) (key : Bytes) : Option Bytes :=
  (j.valueAt key .string).map j.tokenText

/-- User and password of the request are the stored ones. -/
def RightCredentials (cfg : RuntimeCfg) (rq : Request) : Prop :=
  rq.json.textAt (str "login-ack") = some (cstr cfg.user) ∧
    rq.json.textAt (str "pwd-msg") = some (cstr cfg.password)

/-- The check accepts the stored user and password only. -/
def ValidatesExactly (cfg : RuntimeCfg) (rq : Request) : Prop :=
  (extJsonUserValidate cfg rq).2 = true ↔ RightCredentials cfg rq

/-- The text begins with another one. -/
def Extends (text stored : Bytes) : Prop := cstr stored <+: text

/-- User and password of the request begin with the stored ones, and one of them goes on. -/
def GoesOn (cfg : RuntimeCfg) (rq : Request) : Prop :=
  ∃ user password, rq.json.textAt (str "login-ack") = some user ∧
    rq.json.textAt (str "pwd-msg") = some password ∧
    Extends user cfg.user ∧ Extends password cfg.password ∧
    ((cstr cfg.user).length < user.length ∨ (cstr cfg.password).length < password.length)

instance (cfg : RuntimeCfg) (rq : Request) : Decidable (RightCredentials cfg rq) :=
  inferInstanceAs (Decidable (_ ∧ _))

instance (cfg : RuntimeCfg) (rq : Request) : Decidable (ValidatesExactly cfg rq) :=
  inferInstanceAs (Decidable (_ ↔ _))

/-! ### The comparison -/

/-- The cut at the size of the local array does not change the comparison. -/
theorem startsWith_snprintf {text stored : Bytes} (fits : stored.length < extUserSize) :
    startsWith (snprintf extUserSize text) stored = true ↔ Extends text stored := by
  have short := length_cstr_le stored
  unfold startsWith snprintf Extends
  rw [List.isPrefixOf_iff_prefix, List.prefix_take_iff]
  constructor
  · exact fun begins => begins.1
  · intro begins
    refine ⟨begins, ?_⟩
    omega

/-- The string that `extJsonParseString` copies. -/
theorem stringAt_textAt (j : Json) (key : Bytes) (size : Nat) :
    j.stringAt key size = (j.textAt key).map (snprintf size) := by
  unfold Json.stringAt Json.textAt
  rw [Option.map_map]
  rfl

/-- What the check accepts. -/
theorem accepts_iff {cfg : RuntimeCfg} (stored : Stored cfg) (rq : Request) :
    (extJsonUserValidate cfg rq).2 = true ↔
      ∃ user password, rq.json.textAt (str "login-ack") = some user ∧
        rq.json.textAt (str "pwd-msg") = some password ∧
        Extends user cfg.user ∧ Extends password cfg.password := by
  have pwd (r : Report) := extJsonParseString_eq rq.json (str "pwd-msg") extUserSize r
  obtain ⟨r, login⟩ := extJsonParseString_eq rq.json (str "login-ack") extUserSize rq.report
  rw [stringAt_textAt] at login
  unfold extJsonUserValidate
  rw [login]
  cases rq.json.textAt (str "login-ack") with
  | none => simp
  | some user =>
      simp only [Option.map_some]
      by_cases known : startsWith (snprintf extUserSize user) cfg.user = true
      swap
      · rw [if_pos known]
        constructor
        · nofun
        · rintro ⟨_, password, same, -, begins, -⟩
          cases same
          exact absurd ((startsWith_snprintf stored.user).mpr begins) known
      rw [if_neg (not_not.mpr known)]
      obtain ⟨r', read⟩ := pwd r
      rw [stringAt_textAt] at read
      rw [read]
      cases rq.json.textAt (str "pwd-msg") with
      | none => simp
      | some password =>
          simp only [Option.map_some]
          by_cases right : startsWith (snprintf extUserSize password) cfg.password = true
          · rw [if_neg (not_not.mpr right)]
            refine iff_of_true rfl ⟨user, password, rfl, rfl, ?_, ?_⟩
            · exact (startsWith_snprintf stored.user).mp known
            · exact (startsWith_snprintf stored.password).mp right
          · rw [if_pos right]
            constructor
            · nofun
            · rintro ⟨_, _, -, same, -, begins⟩
              cases same
              exact absurd ((startsWith_snprintf stored.password).mpr begins) right

/-- A text that begins with the stored one is the stored one, or goes on. -/
theorem Extends.eq_iff {text stored : Bytes} (begins : Extends text stored) :
    cstr stored = text ↔ ¬ (cstr stored).length < text.length := by
  constructor
  · intro same
    rw [same]
    exact lt_irrefl _
  · intro stops
    exact begins.eq_of_length_le (not_lt.mp stops)

/-- The right credentials are accepted. -/
theorem RightCredentials.accepted {cfg : RuntimeCfg} {rq : Request} (stored : Stored cfg)
    (right : RightCredentials cfg rq) : (extJsonUserValidate cfg rq).2 = true :=
  (accepts_iff stored rq).mpr
    ⟨_, _, right.1, right.2, List.prefix_refl _, List.prefix_refl _⟩

/-- The receiver's request of an `administrator`, who is not the `admin` it knows. -/
def administrator : Request :=
  (received receiverAgent (requestFrame (str ("\x7b\"targ\":\"00:04:25:1c:10:02\"," ++
    "\"cmd\":\"get_param\",\"login-ack\":\"administrator\",\"pwd-msg\":\"admin\"\x7d")))).1.toRequest

end LwipExt.UdpCmd
