import LwipExt.Mdns.Responder
import LwipExt.Mdns.Response

/-!
Which names the multicast DNS responder takes for its own.

`lwip_strnicmp` compares one character more than the label is long, and stops at a NUL. For a
name of its own, none of whose labels holds one, `mdns_domain_eq` still holds of exactly the names
that differ from it in case only (`mdnsDomainEq_iff`).
-/

namespace LwipExt.Mdns

/-! ### Characters -/

/-- The comparison of two characters in `lwip_strnicmp`. -/
theorem sameChar_iff (c1 c2 : UInt8) :
    (c1 ≠ c2 ∧ ¬ (97 ≤ c1 ||| 0x20 ∧ c1 ||| 0x20 ≤ 122 ∧ c1 ||| 0x20 = c2 ||| 0x20)) ↔
      toLower c1 ≠ toLower c2 := by
  have lower : ∀ c : UInt8, toLower c =
      if 97 ≤ c ||| 0x20 ∧ c ||| 0x20 ≤ 122 then c ||| 0x20 else c := by
    have all : ∀ n < 256, toLower (UInt8.ofNat n) =
        if 97 ≤ UInt8.ofNat n ||| 0x20 ∧ UInt8.ofNat n ||| 0x20 ≤ 122 then UInt8.ofNat n ||| 0x20
        else UInt8.ofNat n := by decide +kernel
    intro c
    simpa using all c.toNat c.toNat_lt
  have idem : ∀ c : UInt8, (c ||| 0x20) ||| 0x20 = c ||| 0x20 := by
    intro c
    rw [UInt8.or_assoc]
    rfl
  rw [lower c1, lower c2]
  split <;> split
  · grind
  · grind
  · grind
  · grind

theorem toLower_of_lt {c : UInt8} (low : c.toNat < 65) : toLower c = c := by
  rw [toLower, if_neg]
  intro upper
  have := UInt8.le_iff_toNat_le.mp upper.1
  simp only [UInt8.reduceToNat] at this
  omega

/-! ### Labels -/

/-- The comparison of a label: all its characters and the one behind it. -/
theorem lwipStrnicmp_iff {label : Bytes} (plain : 0 ∉ label) (str1 rest : Bytes) :
    lwipStrnicmp label.length str1 (label ++ rest) = true ↔
      ∀ i ≤ label.length, toLower (str1.getD i 0) = toLower ((label ++ rest).getD i 0) := by
  induction label generalizing str1 with
  | nil =>
      rw [List.length_nil, lwipStrnicmp]
      simp only [sameChar_iff]
      constructor
      · intro same i le
        obtain rfl : i = 0 := by omega
        by_contra other
        rw [if_pos other] at same
        cases same
      · intro same
        rw [if_neg (fun other => other (same 0 (Nat.le_refl 0)))]
  | cons c label ih =>
      have nonzero : c ≠ 0 := fun zero => plain (zero ▸ List.mem_cons_self)
      have rest_ := ih (fun mem => plain (.tail _ mem)) (str1.drop 1)
      rw [List.length_cons, lwipStrnicmp]
      simp only [sameChar_iff]
      by_cases same : toLower (str1.getD 0 0) = toLower ((c :: label ++ rest).getD 0 0)
      · have nonzero' : str1.getD 0 0 ≠ 0 := by
          intro zero
          rw [zero] at same
          exact nonzero ((toLower_eq_zero_iff c).mp (same.symm.trans (by decide)))
        rw [if_neg (fun other => other same), if_neg nonzero']
        simp only [List.cons_append, List.drop_succ_cons, List.drop_zero]
        rw [rest_]
        constructor
        · intro each i le
          cases i with
          | zero => exact same
          | succ i =>
              have next := each i (by omega)
              rw [List.getD_eq_getElem?_getD, List.getElem?_drop, Nat.add_comm 1 i] at next
              simpa [List.getD_eq_getElem?_getD] using next
        · intro each i le
          have next := each (i + 1) (by omega)
          rw [List.getD_eq_getElem?_getD, List.getElem?_drop, Nat.add_comm 1 i]
          simpa [List.getD_eq_getElem?_getD] using next
      · rw [if_pos same]
        exact ⟨fun other => (by cases other), fun each => absurd (each 0 (by omega)) same⟩

/-! ### Names -/

/-- What a name of the responder is made of. -/
structure OwnLabel (label : Bytes) : Prop where
  nonempty : label ≠ []
  short : label.length ≤ mdnsLabelMaxlen
  plain : 0 ∉ label

theorem getD_drop (x : Bytes) (i j : Nat) : (x.drop i).getD j 0 = x.getD (i + j) 0 := by
  rw [List.getD_eq_getElem?_getD, List.getElem?_drop, List.getD_eq_getElem?_getD]

theorem map_toLower_iff {x y : Bytes} (same : x.length = y.length) :
    x.map toLower = y.map toLower ↔ ∀ i < y.length, toLower (x.getD i 0) = toLower (y.getD i 0) := by
  constructor
  · intro equal i lt
    have at_ := congrArg (·[i]?) equal
    simp only [List.getElem?_map] at at_
    rw [List.getElem?_eq_getElem lt, List.getElem?_eq_getElem (by omega)] at at_
    rw [List.getD_eq_getElem?_getD, List.getD_eq_getElem?_getD, List.getElem?_eq_getElem lt,
      List.getElem?_eq_getElem (by omega)]
    exact Option.some.inj at_
  · intro each
    apply List.ext_getElem (by simp [same])
    intro i lt lt'
    rw [List.length_map] at lt lt'
    have at_ := each i lt'
    rw [List.getD_eq_getElem?_getD, List.getD_eq_getElem?_getD, List.getElem?_eq_getElem lt,
      List.getElem?_eq_getElem lt'] at at_
    simpa using at_

theorem toLower_eq_low {x y : UInt8} (low : y.toNat < 65) : toLower x = toLower y ↔ x = y := by
  rw [toLower_of_lt low, toLower]
  split
  next upper =>
    obtain ⟨from_, upto⟩ := upper
    rw [UInt8.le_iff_toNat_le] at from_ upto
    simp only [UInt8.reduceToNat] at from_ upto
    have moved : (x + 32).toNat = x.toNat + 32 := by
      have width : (32 : UInt8).toNat = 32 := rfl
      rw [UInt8.toNat_add, width]
      omega
    constructor
    · intro same
      rw [← same, moved] at low
      omega
    · intro same
      rw [same] at from_
      omega
  · exact Iff.rfl

/-- The characters of a name that starts with a label: those that the label and the one behind it
are compared at, and those of the rest of the name. -/
theorem sameName_cons {label : Bytes} (short : label.length ≤ mdnsLabelMaxlen) {x : Bytes}
    {labels : List Bytes} (size : x.length = (encodeName (label :: labels)).length) :
    SameName x (encodeName (label :: labels)) ↔
      x.getD 0 0 = UInt8.ofNat label.length ∧
        (∀ j ≤ label.length, toLower ((x.drop 1).getD j 0) =
          toLower ((label ++ encodeName labels).getD j 0)) ∧
        SameName (x.drop (1 + label.length)) (encodeName labels) := by
  have most : mdnsLabelMaxlen = 63 := rfl
  have ends := length_encodeName labels
  have low : (UInt8.ofNat label.length).toNat < 65 := by
    rw [UInt8.toNat_ofNat']
    omega
  rw [encodeName_cons, List.length_cons, List.length_append] at size
  rw [encodeName_cons, SameName, map_toLower_iff (by simpa using size), SameName,
    map_toLower_iff (by rw [List.length_drop]; omega), List.length_cons, List.length_append,
    ← toLower_eq_low low]
  constructor
  · intro each
    refine ⟨each 0 (by omega), fun j le => ?_, fun j lt => ?_⟩
    · have at_ := each (j + 1) (by omega)
      rw [List.getD_cons_succ] at at_
      rw [getD_drop, Nat.add_comm 1 j, at_]
    · have at_ := each (label.length + j + 1) (by omega)
      rw [List.getD_cons_succ, List.getD_append_right _ _ _ _ (by omega),
        Nat.add_sub_cancel_left] at at_
      rw [getD_drop, ← at_]
      congr 2
      omega
  · rintro ⟨first, near, far⟩ j lt
    cases j with
    | zero => exact first
    | succ j =>
        rw [List.getD_cons_succ]
        by_cases le : j ≤ label.length
        · have at_ := near j le
          rwa [getD_drop, Nat.add_comm 1 j] at at_
        · have at_ := far (j - label.length) (by omega)
          rw [getD_drop, show 1 + label.length + (j - label.length) = j + 1 by omega] at at_
          rw [List.getD_append_right _ _ _ _ (by omega), at_]

/-- The loop of `mdns_domain_eq` at a label of the own name. -/
theorem mdnsDomainEqLoop_iff {a b : MdnsDomain} (size : a.length = b.length) {labels : List Bytes}
    (each : ∀ label ∈ labels, OwnLabel label) {rounds i : Nat} (enough : labels.length < rounds)
    (stands : b.name.drop i = encodeName labels) :
    mdnsDomainEqLoop a b rounds i = true ↔ SameName (a.name.drop i) (encodeName labels) := by
  simp only [MdnsDomain.length] at size
  induction labels generalizing rounds i with
  | nil =>
      obtain ⟨rounds, rfl⟩ : ∃ n, rounds = n + 1 := ⟨rounds - 1, by omega⟩
      have nil : encodeName ([] : List Bytes) = [0] := rfl
      have left := congrArg List.length stands
      rw [List.length_drop, nil, List.length_singleton] at left
      have y : b.name.getD i 0 = 0 := by
        have at_ := getD_drop b.name i 0
        rw [stands, nil, List.getD_cons_zero, Nat.add_zero] at at_
        exact at_.symm
      have stops : ¬ (a.name.getD i 0 ≠ 0 ∧ b.name.getD i 0 ≠ 0 ∧ i < a.length) :=
        fun other => other.2.1 y
      rw [mdnsDomainEqLoop, nil, SameName, map_toLower_iff (by rw [List.length_drop]; simp; omega)]
      rw [if_neg stops, y, decide_eq_true_iff]
      have inside : i < a.name.length := by omega
      constructor
      · intro same j lt
        obtain rfl : j = 0 := by simpa using lt
        have zero : a.name.getD i 0 = 0 := by
          by_contra other
          exact same ⟨other, inside⟩
        rw [getD_drop, Nat.add_zero, zero]
        rfl
      · intro each_ other
        have first := each_ 0 (by simp)
        rw [getD_drop, Nat.add_zero] at first
        exact other.1 ((toLower_eq_low (by decide)).mp first)
  | cons label labels ih =>
      obtain ⟨rounds, rfl⟩ : ∃ n, rounds = n + 1 := ⟨rounds - 1, by omega⟩
      obtain ⟨nonempty, short, plain⟩ := each label (.head _)
      have pos := List.length_pos_of_ne_nil nonempty
      have most : mdnsLabelMaxlen = 63 := rfl
      have ends := length_encodeName labels
      have left := congrArg List.length stands
      rw [List.length_drop, encodeName_cons, List.length_cons, List.length_append] at left
      have y : b.name.getD i 0 = UInt8.ofNat label.length := by
        have at_ := getD_drop b.name i 0
        rw [stands, encodeName_cons, List.getD_cons_zero, Nat.add_zero] at at_
        exact at_.symm
      have length : (UInt8.ofNat label.length).toNat = label.length := by
        rw [UInt8.toNat_ofNat']
        omega
      have nonzero : UInt8.ofNat label.length ≠ 0 := by
        intro zero
        have none_ : (0 : UInt8).toNat = 0 := rfl
        rw [zero, none_] at length
        omega
      have behind : b.name.drop (i + 1) = label ++ encodeName labels := by
        rw [← List.drop_drop, stands, encodeName_cons, List.drop_succ_cons, List.drop_zero]
      have next : b.name.drop (i + 1 + label.length) = encodeName labels := by
        rw [← List.drop_drop, behind, List.drop_left]
      have enough' : labels.length < rounds := Nat.lt_of_succ_lt_succ enough
      have rest := ih (fun other mem => each other (.tail _ mem)) enough' next
      have whole : (a.name.drop i).length = (encodeName (label :: labels)).length := by
        rw [List.length_drop, encodeName_cons, List.length_cons, List.length_append]
        omega
      rw [sameName_cons short whole, getD_drop, Nat.add_zero, List.drop_drop, List.drop_drop,
        ← Nat.add_assoc, ← lwipStrnicmp_iff plain, ← rest, mdnsDomainEqLoop, behind, y]
      simp only [Nat.add_zero]
      have inside : i < a.length := by
        rw [MdnsDomain.length]
        omega
      by_cases same : a.name.getD i 0 = UInt8.ofNat label.length
      · have goes : a.name.getD i 0 ≠ 0 ∧ UInt8.ofNat label.length ≠ 0 ∧ i < a.length :=
          ⟨by rw [same]; exact nonzero, nonzero, inside⟩
        rw [if_pos goes, if_neg (fun other => other same), same, length]
        cases lwipStrnicmp label.length (a.name.drop (i + 1)) (label ++ encodeName labels) <;>
          simp
      · have differs : a.name.getD i 0 ≠ UInt8.ofNat label.length ∧ i < a.length :=
          ⟨same, inside⟩
        rw [if_pos same]
        split
        · exact ⟨fun other => (by cases other), fun other => absurd other.1 same⟩
        · rw [decide_eq_true_iff]
          exact ⟨fun other => absurd differs other, fun other => absurd other.1 same⟩

/-- The comparison with a name of the responder does not look at the case of letters, and at
nothing else. -/
theorem mdnsDomainEq_iff (a : MdnsDomain) {labels : List Bytes}
    (each : ∀ label ∈ labels, OwnLabel label) :
    mdnsDomainEq a ⟨encodeName labels⟩ = true ↔ SameName a.name (encodeName labels) := by
  rw [mdnsDomainEq]
  by_cases size : a.length = (⟨encodeName labels⟩ : MdnsDomain).length
  · rw [if_neg (fun other => other size)]
    refine mdnsDomainEqLoop_iff size each ?_ (List.drop_zero)
    have count := length_le_encodeLabels labels
    have ends := length_encodeName labels
    rw [size]
    change labels.length < (encodeName labels).length + 1
    omega
  · rw [if_pos size]
    refine ⟨fun other => (by cases other), fun same => absurd ?_ size⟩
    have lengths := congrArg List.length same
    rwa [List.length_map, List.length_map] at lengths

end LwipExt.Mdns
