import PocketCalc.Proofs.Keypad.Sound

/-!
# Runs of the keypad

A run starts with a fresh keypad, whatever its logs hold already, and presses keys.  Events come
down to that: one that cannot be handled leaves the keypad as it is.

* `Reached s k`           some keys lead from a fresh keypad to `k`;
* `receive`               an event, its kind given as a word;
* `Reached.sound`         a reached state is sound.
-/

namespace PocketCalc.Keypad
open Text

/-- a keypad on which nothing was pressed yet -/
def fresh (history : History) (errors : ErrorLog) : Keypad := { history, errors }

/-- the keypads that pressing keys leads to -/
inductive Reached (s : Settings) : Keypad → Prop
  | fresh (history : History) (errors : ErrorLog) : Reached s (.fresh history errors)
  | press {k : Keypad} (key : Key) : Reached s k → Reached s (k.press s key)

/-- the keys pressed on a fresh keypad, one after the other -/
def run (s : Settings) (keys : List Key) : Keypad := keys.foldl (press s) (.fresh .initial .initial)

/-- an event as a front end may send it: the word for its kind may be none of the known ones -/
structure Signal where
  kind : String
  value : Option Argument := none

/-- the keypad after an event; one that cannot be handled changes nothing -/
def receive (s : Settings) (k : Keypad) (e : Signal) : Keypad :=
  match k.applyNamed s e.kind e.value with
  | .ok k' => k'
  | .error _ => k

variable {s : Settings} {k : Keypad}

theorem Reached.foldl (keys : List Key) : ∀ {k : Keypad}, Reached s k →
    Reached s (keys.foldl (Keypad.press s) k) := by
  induction keys with
  | nil => exact fun h => h
  | cons key keys ih => exact fun h => ih (h.press key)

theorem reached_run (s : Settings) (keys : List Key) : Reached s (run s keys) :=
  .foldl keys (.fresh .initial .initial)

/-! ## Events are keys -/

theorem exists_press_of_apply {e : Event} {k' : Keypad} (h : k.apply s e = .ok k') :
    ∃ key, k' = k.press s key := by
  unfold apply at h
  split at h
  · rename_i hf
    cases h
    refine ⟨.equals, ?_⟩
    rw [press, if_pos hf]
  · cases hk : e.key with
    | error f =>
      rw [hk] at h
      cases h
    | ok key =>
      rw [hk] at h
      cases h
      exact ⟨key, rfl⟩

theorem receive_eq_self_or_press (s : Settings) (k : Keypad) (e : Signal) :
    k.receive s e = k ∨ ∃ key, k.receive s e = k.press s key := by
  unfold receive
  split
  · rename_i k' h
    unfold applyNamed at h
    split at h
    · exact .inr (exists_press_of_apply h)
    · cases h
  · exact .inl rfl

theorem Reached.receive (h : Reached s k) (e : Signal) : Reached s (k.receive s e) := by
  rcases receive_eq_self_or_press s k e with he | ⟨key, he⟩
  · rw [he]
    exact h
  · rw [he]
    exact h.press key

/-! ## What holds on every run -/

theorem Reached.sound (h : Reached s k) : k.state.Sound := by
  induction h with
  | fresh => exact .inl (active_startOver k)
  | press key _ ih => exact sound_press s key ih

end PocketCalc.Keypad
