import Mathlib.Logic.Function.Basic
import Mathlib.Data.List.Nodup

/-!
Objects that are allocated, listed, and handed to callbacks.

An object lives at a slot, and the slot passes it to its callbacks as their argument.
A registry is `Sound` when exactly the live objects are listed, each once, and a slot
passes an object exactly when that object lives there. Then what a callback gets is
live. Opening an object at a slot that is not in use and closing one at its own slot
keep a registry sound (`Sound.opened`, `Sound.closed`).
-/

namespace LwipExt.Lib

universe u v

/-- Which objects are live, at which slot, and what the slots pass to whom. `heard`
says that the callbacks of a slot are set, `polled` the same of its timer. -/
structure Registry (κ : Type u) (ρ : Type v) where
  live : κ → Bool
  home : κ → ρ
  listed : List κ
  arg : ρ → Option κ
  heard : ρ → Bool
  polled : ρ → Bool

namespace Registry

variable {κ : Type u} {ρ : Type v}

/-- The slots pass exactly the live objects. -/
structure Sound (r : Registry κ ρ) : Prop where
  nodup : r.listed.Nodup
  live_iff : ∀ c, r.live c ↔ c ∈ r.listed
  arg_of_live : ∀ c, r.live c → r.arg (r.home c) = some c
  live_of_arg : ∀ p c, r.arg p = some c → r.live c ∧ r.home c = p
  heard_eq : ∀ p, r.heard p = (r.arg p).isSome
  polled_of_arg : ∀ p, (r.arg p).isSome → r.polled p

/-- The slot of another live object is another slot. -/
theorem Sound.home_ne {r : Registry κ ρ} (sound : r.Sound) {c d : κ} (live : r.live c) (live' : r.live d)
    (other : d ≠ c) : r.home d ≠ r.home c := by
  intro same
  have passed := sound.arg_of_live d live'
  rw [same, sound.arg_of_live c live] at passed
  exact other (Option.some.inj passed).symm

section Changes

variable [DecidableEq κ] [DecidableEq ρ]

/-- The slot `p` passes nothing any more; its timer may stay set. -/
def reset (r : Registry κ ρ) (p : ρ) (timer : Bool) : Registry κ ρ :=
  { r with
    arg := Function.update r.arg p none
    heard := Function.update r.heard p false
    polled := Function.update r.polled p timer }

/-- The object `c` is released. -/
def release (r : Registry κ ρ) (c : κ) : Registry κ ρ :=
  { r with live := Function.update r.live c false, listed := r.listed.erase c }

/-- The object `c` is released, and its slot `p` reset. -/
def closed (r : Registry κ ρ) (c : κ) (p : ρ) (timer : Bool) : Registry κ ρ :=
  (r.release c).reset p timer

/-- The object `c` is allocated and listed, at the slot `p`. -/
def allocated (r : Registry κ ρ) (c : κ) (p : ρ) : Registry κ ρ :=
  { r with
    live := Function.update r.live c true
    home := Function.update r.home c p
    listed := c :: r.listed }

/-- The object `c` is allocated at the slot `p`, which passes it from now on. -/
def opened (r : Registry κ ρ) (c : κ) (p : ρ) : Registry κ ρ :=
  { r.allocated c p with
    arg := Function.update r.arg p (some c)
    heard := Function.update r.heard p true
    polled := Function.update r.polled p true }

variable {r : Registry κ ρ} {c : κ} {p : ρ}

theorem Sound.closed (sound : r.Sound) (live : r.live c) (timer : Bool) :
    (r.closed c (r.home c) timer).Sound where
  nodup := sound.nodup.erase c
  live_iff := by
    intro d
    by_cases same : d = c
    · subst same
      simp [Registry.closed, release, reset, sound.nodup.mem_erase_iff]
    · simp [Registry.closed, release, reset, sound.nodup.mem_erase_iff, same, sound.live_iff]
  arg_of_live := by
    intro d live'
    by_cases same : d = c
    · subst same
      simp [Registry.closed, release, reset] at live'
    · have live'' : r.live d := by simpa [Registry.closed, release, reset, same] using live'
      have elsewhere := sound.home_ne live live'' same
      simpa [Registry.closed, release, reset, elsewhere] using sound.arg_of_live d live''
  live_of_arg := by
    intro p d passed
    by_cases here : p = r.home c
    · subst here
      simp [Registry.closed, release, reset] at passed
    · have passed' : r.arg p = some d := by
        simpa [Registry.closed, release, reset, here] using passed
      obtain ⟨live', home⟩ := sound.live_of_arg p d passed'
      have other : d ≠ c := by
        rintro rfl
        exact here home.symm
      exact ⟨by simpa [Registry.closed, release, reset, other] using live', home⟩
  heard_eq := by
    intro q
    by_cases here : q = r.home c
    · subst here
      simp [Registry.closed, release, reset]
    · simp [Registry.closed, release, reset, here, sound.heard_eq]
  polled_of_arg := by
    intro q passed
    by_cases here : q = r.home c
    · subst here
      simp [Registry.closed, release, reset] at passed
    · have passed' : (r.arg q).isSome := by
        simpa [Registry.closed, release, reset, here] using passed
      simpa [Registry.closed, release, reset, here] using sound.polled_of_arg q passed'

omit [DecidableEq κ] in
/-- Resetting a slot that passes nothing. -/
theorem Sound.reset (sound : r.Sound) (unused : r.arg p = none) (timer : Bool) :
    (r.reset p timer).Sound := by
  have arg : Function.update r.arg p none = r.arg := by
    rw [← unused, Function.update_eq_self]
  have heard : Function.update r.heard p false = r.heard := by
    have quiet : r.heard p = false := by rw [sound.heard_eq, unused]; rfl
    rw [← quiet, Function.update_eq_self]
  unfold Registry.reset
  rw [arg, heard]
  refine { sound with polled_of_arg := ?_ }
  intro q passed
  have elsewhere : q ≠ p := by
    rintro rfl
    simp [unused] at passed
  simpa [elsewhere] using sound.polled_of_arg q passed

theorem Sound.opened (sound : r.Sound) (fresh : r.live c = false) (unused : r.arg p = none) :
    (r.opened c p).Sound where
  nodup := by
    refine List.nodup_cons.mpr ⟨?_, sound.nodup⟩
    rw [← sound.live_iff c, fresh]
    simp
  live_iff := by
    intro d
    by_cases same : d = c
    · subst same
      simp [Registry.opened, allocated]
    · simp [Registry.opened, allocated, same, sound.live_iff]
  arg_of_live := by
    intro d live'
    by_cases same : d = c
    · subst same
      simp [Registry.opened, allocated]
    · have live'' : r.live d := by simpa [Registry.opened, allocated, same] using live'
      have passed := sound.arg_of_live d live''
      have elsewhere : r.home d ≠ p := by
        intro here
        rw [here, unused] at passed
        exact absurd passed (by simp)
      simpa [Registry.opened, allocated, same, elsewhere] using passed
  live_of_arg := by
    intro q d passed
    by_cases here : q = p
    · subst here
      obtain rfl : c = d := by simpa [Registry.opened, allocated] using passed
      simp [Registry.opened, allocated]
    · have passed' : r.arg q = some d := by
        simpa [Registry.opened, allocated, here] using passed
      obtain ⟨live', home⟩ := sound.live_of_arg q d passed'
      have other : d ≠ c := by
        rintro rfl
        rw [fresh] at live'
        exact absurd live' (by simp)
      simpa [Registry.opened, allocated, other] using ⟨live', home⟩
  heard_eq := by
    intro q
    by_cases here : q = p
    · subst here
      simp [Registry.opened, allocated]
    · simp [Registry.opened, allocated, here, sound.heard_eq]
  polled_of_arg := by
    intro q passed
    by_cases here : q = p
    · subst here
      simp [Registry.opened, allocated]
    · have passed' : (r.arg q).isSome := by
        simpa [Registry.opened, allocated, here] using passed
      simpa [Registry.opened, allocated, here] using sound.polled_of_arg q passed'

end Changes

end Registry

end LwipExt.Lib
