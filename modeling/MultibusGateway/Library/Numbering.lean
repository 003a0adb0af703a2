import Mathlib.Data.List.Basic
import Mathlib.Logic.Relation

/-! Numbers that are to be used once. The next number is counted up under a key; it is in hand and,
as far as it has been saved, in a store that outlives a restart. A use is saved once the store has
gone past its number. Only the number of a use that was not saved can come again. -/

namespace Numbering
variable {κ : Type*}

structure Use (κ : Type*) where
  key : κ
  number : ℕ
  saved : Bool

/-- A key with the next number under it, if there is one. -/
abbrev Next (κ : Type*) := Option (κ × ℕ)

/-- The next number in hand and in the store, and the uses so far, oldest first. -/
structure Book (κ : Type*) where
  live : Next κ := none
  stored : Next κ := none
  uses : List (Use κ) := []

def Above (next : Next κ) (uses : List (Use κ)) : Prop :=
  ∀ key number, next = some (key, number) → ∀ u ∈ uses, u.saved = true → u.key = key →
    u.number < number

def Fresh (key : κ) (uses : List (Use κ)) : Prop := ∀ u ∈ uses, u.saved = true → u.key ≠ key

/-- A number that was saved does not come again under its key, nor a lower one. -/
def Once (uses : List (Use κ)) : Prop :=
  uses.Pairwise fun first later =>
    first.key = later.key → first.saved = true → first.number < later.number

def Continues : Next κ → Next κ → Prop
  | _, none => True
  | none, some _ => False
  | some held, some next => held.1 = next.1 ∧ held.2 ≤ next.2

def Advances : Next κ → Next κ → Prop
  | none, _ => False
  | some _, none => True
  | some held, some next => held.1 = next.1 ∧ held.2 < next.2

instance [DecidableEq κ] : (held next : Next κ) → Decidable (Continues held next)
  | none, none | some _, none => inferInstanceAs (Decidable True)
  | none, some _ => inferInstanceAs (Decidable False)
  | some _, some _ => inferInstanceAs (Decidable (_ ∧ _))

instance [DecidableEq κ] : (held next : Next κ) → Decidable (Advances held next)
  | none, none | none, some _ => inferInstanceAs (Decidable False)
  | some _, none => inferInstanceAs (Decidable True)
  | some _, some _ => inferInstanceAs (Decidable (_ ∧ _))

instance [DecidableEq κ] (key : κ) (uses : List (Use κ)) : Decidable (Fresh key uses) :=
  inferInstanceAs (Decidable (∀ u ∈ uses, u.saved = true → ¬ u.key = key))

structure Sound (book : Book κ) : Prop where
  live : Above book.live book.uses
  stored : Above book.stored book.uses
  once : Once book.uses

theorem above_none (uses : List (Use κ)) : Above none uses := by
  intro key number same
  cases same

theorem Above.mono {key : κ} {number next : ℕ} {uses : List (Use κ)}
    (above : Above (some (key, number)) uses) (more : number ≤ next) :
    Above (some (key, next)) uses := by
  intro other last same u member saved own
  obtain ⟨rfl, rfl⟩ := Prod.mk.inj (Option.some.inj same)
  exact Nat.lt_of_lt_of_le (above key number rfl u member saved own) more

theorem Fresh.above {key : κ} {uses : List (Use κ)} (fresh : Fresh key uses) (number : ℕ) :
    Above (some (key, number)) uses := by
  intro other last same u member saved own
  obtain ⟨rfl, rfl⟩ := Prod.mk.inj (Option.some.inj same)
  exact absurd own (fresh u member saved)

theorem Above.concat {next : Next κ} {uses : List (Use κ)} (above : Above next uses) (u : Use κ)
    (last : u.saved = true → ∀ number, next = some (u.key, number) → u.number < number) :
    Above next (uses ++ [u]) := by
  intro key number same v member saved own
  rcases List.mem_append.mp member with before | here
  · exact above key number same v before saved own
  · obtain rfl := List.mem_singleton.mp here
    subst own
    exact last saved number same

/-- Where a next number comes from: from the hand or from the store, or its key is new. -/
inductive Origin (book : Book κ) : Next κ → Prop
  | none : Origin book none
  | live (key : κ) (number next : ℕ) (held : book.live = some (key, number))
    (more : number ≤ next) : Origin book (some (key, next))
  | stored (key : κ) (number next : ℕ) (held : book.stored = some (key, number))
    (more : number ≤ next) : Origin book (some (key, next))
  | fresh (key : κ) (next : ℕ) (new : Fresh key book.uses) : Origin book (some (key, next))

inductive Step : Book κ → Book κ → Prop
  | use (book : Book κ) (key : κ) (number : ℕ) (saved : Bool) (live stored : Next κ)
    (held : book.live = some (key, number))
    (onwards : Advances (some (key, number)) live)
    (kept : stored = none ∨ stored = live ∨ saved = false ∧ stored = book.stored) :
    Step book ⟨live, stored, book.uses ++ [⟨key, number, saved⟩]⟩
  | move (book : Book κ) (live stored : Next κ) (hand : Origin book live)
    (store : Origin book stored) : Step book ⟨live, stored, book.uses⟩

theorem Origin.above {book : Book κ} (sound : Sound book) {next : Next κ}
    (origin : Origin book next) : Above next book.uses := by
  cases origin with
  | none => exact above_none book.uses
  | live key number next held more =>
    have above := sound.live
    rw [held] at above
    exact above.mono more
  | stored key number next held more =>
    have above := sound.stored
    rw [held] at above
    exact above.mono more
  | fresh key next new => exact new.above next

theorem Origin.self_live (book : Book κ) : Origin book book.live := by
  cases held : book.live with
  | none => exact .none
  | some next => exact .live next.1 next.2 next.2 held (Nat.le_refl _)

theorem Origin.self_stored (book : Book κ) : Origin book book.stored := by
  cases held : book.stored with
  | none => exact .none
  | some next => exact .stored next.1 next.2 next.2 held (Nat.le_refl _)

theorem Continues.live {book : Book κ} {next : Next κ} (continues : Continues book.live next) :
    Origin book next := by
  cases next with
  | none => exact .none
  | some next =>
    cases held : book.live with
    | none =>
      rw [held] at continues
      cases continues
    | some now =>
      rw [held] at continues
      obtain ⟨same, more⟩ := continues
      exact .live next.1 now.2 next.2 (by rw [held, ← same]) more

theorem Continues.stored {book : Book κ} {next : Next κ}
    (continues : Continues book.stored next) : Origin book next := by
  cases next with
  | none => exact .none
  | some next =>
    cases held : book.stored with
    | none =>
      rw [held] at continues
      cases continues
    | some kept =>
      rw [held] at continues
      obtain ⟨same, more⟩ := continues
      exact .stored next.1 kept.2 next.2 (by rw [held, ← same]) more

theorem Once.concat {uses : List (Use κ)} (once : Once uses) (u : Use κ)
    (above : Above (some (u.key, u.number)) uses) : Once (uses ++ [u]) := by
  refine List.pairwise_append.mpr ⟨once, List.pairwise_singleton _ _, ?_⟩
  intro first member later last own saved
  obtain rfl := List.mem_singleton.mp last
  exact above later.key later.number rfl first member saved own

theorem above_onwards {book : Book κ} (sound : Sound book) {key : κ} {number : ℕ} {saved : Bool}
    {live : Next κ} (held : book.live = some (key, number))
    (onwards : Advances (some (key, number)) live) :
    Above live (book.uses ++ [⟨key, number, saved⟩]) := by
  cases live with
  | none => exact above_none _
  | some next =>
    obtain ⟨rfl, less⟩ := onwards
    have above := sound.live
    rw [held] at above
    refine (above.mono (Nat.le_of_lt less)).concat _ fun _ other same => ?_
    have last : next.2 = other := congrArg Prod.snd (Option.some.inj same)
    rw [← last]
    exact less

theorem Step.sound {before after : Book κ} (sound : Sound before) (step : Step before after) :
    Sound after := by
  cases step with
  | use key number saved live stored held onwards kept =>
    have hand : Above live (before.uses ++ [⟨key, number, saved⟩]) :=
      above_onwards sound held onwards
    have used := sound.live
    rw [held] at used
    refine ⟨hand, ?_, sound.once.concat _ used⟩
    obtain rfl | rfl | ⟨rfl, rfl⟩ := kept
    · exact above_none _
    · exact hand
    · exact sound.stored.concat _ fun saved => by cases saved
  | move live stored hand store => exact ⟨hand.above sound, store.above sound, sound.once⟩

/-- A use whose saving may break off: what is in hand after it may be gone, and the store may have
gone past it or not, but it has if the use is saved. -/
theorem Sound.attempt {book : Book κ} (sound : Sound book) {key : κ} {number next : ℕ}
    {saved : Bool} {live stored : Next κ} (held : book.live = some (key, number))
    (less : number < next) (hand : live = none ∨ live = some (key, next))
    (store : stored = none ∨ stored = some (key, next) ∨ saved = false ∧ stored = book.stored) :
    Sound ⟨live, stored, book.uses ++ [⟨key, number, saved⟩]⟩ := by
  have used := (Step.use book key number saved (some (key, next)) stored held ⟨rfl, less⟩
    store).sound sound
  refine (Step.move _ live stored ?_ (Origin.self_stored _)).sound used
  obtain rfl | rfl := hand
  · exact .none
  · exact Origin.self_live _

/-- In every run that begins with no uses, a saved number is used once. -/
theorem once_of_run (live stored : Next κ) {after : Book κ}
    (run : Relation.ReflTransGen Step ⟨live, stored, []⟩ after) : Sound after := by
  have nothing : ∀ next : Next κ, Above next [] := by
    intro next key number _ u member
    cases member
  induction run with
  | refl => exact ⟨nothing live, nothing stored, List.Pairwise.nil⟩
  | tail _ step ih => exact step.sound ih

end Numbering
