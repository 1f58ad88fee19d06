import Vocoder.Line

/-!
# Histories

What a machine did is told by its history: every step it took together with what came of it, the latest one
first. Where the machine keeps a queue, its history also tells what waits in the queue, because so many were
put there and so many were taken.

* **`ReachedBy`** — a state is reached by a history; `ReachedBy.split` goes back to any step of it, and
  `ReachedBy.exists_of` says that steps which can always be taken make a history.
* `ReachedBy.of_not_taken`, `ReachedBy.of_taken` — what holds until a certain step, and what holds since.
* **`QueueEvent.found`** — how many turns to take found something, from the puts and takes alone.
* **`QueueEvent.taken_append_waiting`** — what was taken and what waits is what was put, in its order.
-/

namespace Vocoder

/-! ## Histories of a machine -/

/-- The machine comes from its start to this state by the steps of this history, the latest one first. -/
inductive ReachedBy {L S O : Type} (step : L → S → Option (O × L)) (start : L) :
    List (S × O) → L → Prop where
  | start : ReachedBy step start [] start
  | step {earlier : List (S × O)} {l l' : L} {s : S} {x : O}
      (before : ReachedBy step start earlier l) (hstep : step l s = some (x, l')) :
      ReachedBy step start ((s, x) :: earlier) l'

namespace ReachedBy

variable {L S O : Type} {step : L → S → Option (O × L)} {start l : L}

theorem of_append {later earlier : List (S × O)} (h : ReachedBy step start (later ++ earlier) l) :
    ∃ l₁, ReachedBy step start earlier l₁ := by
  induction later generalizing l with
  | nil => exact ⟨l, h⟩
  | cons e later ih =>
    cases h with
    | step before _ => exact ih before

/-- Any step of a history was taken from a state that the earlier part of it reaches. -/
theorem split {later earlier : List (S × O)} {s : S} {x : O}
    (h : ReachedBy step start (later ++ (s, x) :: earlier) l) :
    ∃ l₁ l₂, ReachedBy step start earlier l₁ ∧ step l₁ s = some (x, l₂) := by
  obtain ⟨l₂, hreached⟩ := of_append h
  cases hreached with
  | step before hstep => exact ⟨_, l₂, before, hstep⟩

variable {history : List (S × O)} {stop : S}

/-- What every other step keeps holds until this one is taken. -/
theorem of_not_taken {P : List (S × O) → L → Prop} (hstart : P [] start)
    (hstep : ∀ {earlier l s x l'}, P earlier l → s ≠ stop → step l s = some (x, l') →
      P ((s, x) :: earlier) l')
    (h : ReachedBy step start history l) (hstop : stop ∉ history.map Prod.fst) : P history l := by
  induction h with
  | start => exact hstart
  | @step earlier l l' s x _ hnext ih =>
    obtain ⟨hs, hearlier⟩ := not_or.mp (mt List.mem_cons.mpr hstop)
    exact hstep (ih hearlier) (Ne.symm hs) hnext

/-- What this step brings about and every step keeps holds once it was taken. -/
theorem of_taken {P : L → Prop} (hstop : ∀ {l x l'}, step l stop = some (x, l') → P l')
    (hstep : ∀ {l s x l'}, P l → step l s = some (x, l') → P l')
    (h : ReachedBy step start history l) (htaken : stop ∈ history.map Prod.fst) : P l := by
  induction h with
  | start => cases htaken
  | @step earlier l l' s x _ hnext ih =>
    rcases List.mem_cons.mp htaken with rfl | hearlier
    · exact hstop hnext
    · exact hstep (ih hearlier) hnext

/-- Steps, the latest one first, that can be taken from every state they lead to make a history. -/
theorem exists_of (step : L → S → Option (O × L)) (start : L) (Good : L → Prop) (steps : List S)
    (hstart : Good start)
    (hstep : ∀ {l s}, Good l → s ∈ steps → ∃ x l', step l s = some (x, l') ∧ Good l') :
    ∃ history l, ReachedBy step start history l ∧ history.map Prod.fst = steps ∧ Good l := by
  induction steps with
  | nil => exact ⟨[], start, .start, rfl, hstart⟩
  | cons s steps ih =>
    obtain ⟨earlier, l, hreached, hsteps, hgood⟩ :=
      ih fun hl hs => hstep hl (List.mem_cons_of_mem s hs)
    obtain ⟨x, l', hnext, hgood'⟩ := hstep hgood List.mem_cons_self
    exact ⟨(s, x) :: earlier, l', hreached.step hnext, by rw [List.map_cons, hsteps], hgood'⟩

end ReachedBy

/-! ## Queues seen from their history -/

/-- Something is put at the end of a queue, or it is somebody's turn to take what is at its head. -/
inductive QueueEvent (α : Type) where
  | put (a : α)
  | take
  deriving DecidableEq, Repr

namespace QueueEvent

variable {α : Type}

/-- Everything that was put into the queue, in order. Events are listed with the latest one first. -/
def puts : List (QueueEvent α) → List α
  | [] => []
  | .put a :: earlier => puts earlier ++ [a]
  | .take :: earlier => puts earlier

/-- How many turns to take found something. One finds something if more was put into the queue by then than
earlier turns have found. -/
def found : List (QueueEvent α) → Nat
  | [] => 0
  | .put _ :: earlier => found earlier
  | .take :: earlier =>
    if found earlier < (puts earlier).length then found earlier + 1 else found earlier

/-- What a turn to take finds now. -/
def front? (events : List (QueueEvent α)) : Option α :=
  (puts events)[found events]?

def taken (events : List (QueueEvent α)) : List α :=
  (puts events).take (found events)

def waiting (events : List (QueueEvent α)) : List α :=
  (puts events).drop (found events)

theorem taken_append_waiting (events : List (QueueEvent α)) : taken events ++ waiting events = puts events :=
  List.take_append_drop ..

theorem found_le (events : List (QueueEvent α)) : found events ≤ (puts events).length := by
  induction events with
  | nil => exact Nat.le_refl 0
  | cons e earlier ih =>
    cases e with
    | put a =>
      simp only [found, puts, List.length_append]
      omega
    | take =>
      simp only [found, puts]
      split
      · omega
      · exact ih

theorem front?_eq_head? (events : List (QueueEvent α)) : front? events = (waiting events).head? := by
  rw [front?, waiting, List.head?_drop]

/-- What is at the head stays there when something is put in behind it. -/
theorem front?_put {a b : α} {earlier : List (QueueEvent α)} (h : front? earlier = some a) :
    front? (.put b :: earlier) = some a := by
  rw [front?] at h
  have hlt : found earlier < (puts earlier).length := (List.getElem?_eq_some_iff.mp h).1
  rw [front?, puts, found, List.getElem?_append_left hlt, h]

theorem waiting_put (a : α) (earlier : List (QueueEvent α)) :
    waiting (.put a :: earlier) = waiting earlier ++ [a] := by
  simp only [waiting, puts, found]
  exact List.drop_append_of_le_length (found_le earlier)

theorem taken_put (a : α) (earlier : List (QueueEvent α)) : taken (.put a :: earlier) = taken earlier := by
  simp only [taken, puts, found]
  exact List.take_append_of_le_length (found_le earlier)

theorem waiting_take (earlier : List (QueueEvent α)) : waiting (.take :: earlier) = (waiting earlier).tail := by
  simp only [waiting, puts, found, List.tail_drop]
  split
  · rfl
  · rename_i hall
    -- every turn so far has found something, so nothing is left
    rw [List.drop_eq_nil_of_le (by omega), List.drop_eq_nil_of_le (by omega)]

theorem taken_take (earlier : List (QueueEvent α)) :
    taken (.take :: earlier) = taken earlier ++ (front? earlier).toList := by
  simp only [taken, puts, found, front?]
  split
  · rw [List.take_add_one]
  · rename_i hall
    rw [List.getElem?_eq_none (by omega), Option.toList_none, List.append_nil]

/-- Whatever was found is what was put in at its place, and each was found at a turn of its own: just when so
many had been found before. -/
theorem exists_of_lt_found {events : List (QueueEvent α)} {i : Nat} (h : i < found events) :
    ∃ later earlier, events = later ++ .take :: earlier ∧ found earlier = i ∧
      front? earlier = (puts events)[i]? := by
  induction events with
  | nil => exact absurd h (Nat.not_lt_zero i)
  | cons e rest ih =>
    cases e with
    | put a =>
      obtain ⟨later, earlier, hevents, hfound, hfront⟩ := ih h
      refine ⟨.put a :: later, earlier, by rw [hevents]; rfl, hfound, ?_⟩
      have hlt : i < (puts rest).length := Nat.lt_of_lt_of_le h (found_le rest)
      rw [hfront, puts, List.getElem?_append_left hlt]
    | take =>
      -- either this turn found it, or an earlier one
      by_cases hi : i < found rest
      · obtain ⟨later, earlier, hevents, hfound, hfront⟩ := ih hi
        exact ⟨.take :: later, earlier, by rw [hevents]; rfl, hfound, hfront⟩
      · have hlast : found rest = i := by
          simp only [found] at h
          split at h
          · omega
          · omega
        exact ⟨[], rest, rfl, hlast, by rw [front?, hlast]; rfl⟩

end QueueEvent

end Vocoder
