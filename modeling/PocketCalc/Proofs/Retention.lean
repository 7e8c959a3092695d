import Mathlib
import PocketCalc.Log.Errors
import PocketCalc.Log.History

/-!
# What a log retains

A log is compared with a list that has no bound: the same entries are added to both, and both are
cleared together.  The log is then the end of the list, as long as its capacity allows.

* `Log.Change`              an entry added, or all of them cleared;
* `Log.change`              a log behind a change;
* `Log.sinceClear`          the entries added since the last clearing, however many;
* `Log.Retains l es`        the log holds the newest of the entries `es`;
* `Log.Retains.changes`     what a row of changes leaves in it;
* `Log.IsEnd l c es`        all that can be asked of a log of capacity `c` that is the end of `es`;
* `History.Change`, `ErrorLog.Change`   what is done to a history, and to an error log;
* `History.search_sensitive`, `History.search_insensitive`   what a search finds;
* `retains_newest`          all of it together.
-/

namespace PocketCalc
open Text

namespace Log
variable {α : Type} {l : Log α} {es : List α}

/-! ## Changes -/

/-- what is done to a log -/
inductive Change (α : Type)
  | add (a : α)
  | clear
deriving DecidableEq, Repr

def change (l : Log α) : Change α → Log α
  | .add a => l.push a
  | .clear => l.clear

/-- the entries added since the last clearing, behind those that were there -/
def sinceClear (cs : List (Change α)) (es : List α) : List α :=
  cs.foldl
    (fun es c =>
      match c with
      | .add a => es ++ [a]
      | .clear => [])
    es

/-! ## The end of a list -/

/-- the log holds the newest of some entries, all of them if it has the room -/
structure Retains (l : Log α) (es : List α) : Prop where
  suffix : l.entries <:+ es
  size_eq : l.size = min l.capacity es.length

theorem ofCapacity_of_pos {c : Nat} (hc : 0 < c) (hmax : c ≤ maxCapacity) :
    (ofCapacity c : Except CapacityError (Log α)) = .ok (empty c hc) := by
  have hpos : 0 < (c : Int).toNat := hc
  have hle : (c : Int) ≤ maxCapacity := Int.ofNat_le.mpr hmax
  rw [ofCapacity, dif_pos hpos, if_pos hle]
  rfl

theorem retains_empty (c : Nat) (hc : 0 < c) : (empty c hc : Log α).Retains [] :=
  ⟨List.suffix_rfl, (Nat.min_zero c).symm⟩

/-- an entry more on both sides; a full log loses the one it has longest -/
theorem Retains.push (h : l.Retains es) (a : α) : (l.push a).Retains (es ++ [a]) := by
  have hsize : l.entries.length = min l.capacity es.length := h.size_eq
  constructor
  · obtain ⟨older, holder⟩ := h.suffix
    have happended : l.entries ++ [a] <:+ es ++ [a] :=
      ⟨older, by rw [← List.append_assoc, holder]⟩
    exact (List.drop_suffix _ _).trans happended
  · show ((l.entries ++ [a]).drop (l.entries.length + 1 - l.capacity)).length =
      min l.capacity (es ++ [a]).length
    simp only [List.length_drop, List.length_append, List.length_singleton]
    omega

theorem Retains.clear (l : Log α) : l.clear.Retains [] :=
  ⟨List.suffix_rfl, (Nat.min_zero l.capacity).symm⟩

theorem Retains.change (h : l.Retains es) (c : Change α) :
    (l.change c).Retains (sinceClear [c] es) := by
  cases c with
  | add a => exact h.push a
  | clear => exact .clear l

/-- the capacity is that of the beginning -/
theorem capacity_changes (cs : List (Change α)) : ∀ l : Log α,
    (cs.foldl change l).capacity = l.capacity := by
  induction cs with
  | nil => exact fun _ => rfl
  | cons c cs ih =>
    intro l
    rw [List.foldl_cons, ih (l.change c)]
    cases c with
    | add a => exact capacity_push l a
    | clear => exact capacity_clear l

theorem Retains.changes (cs : List (Change α)) : ∀ {l : Log α} {es : List α}, l.Retains es →
    (cs.foldl Log.change l).Retains (sinceClear cs es) := by
  induction cs with
  | nil => exact fun h => h
  | cons c cs ih => exact fun h => ih (h.change c)

/-- entries that are added one after the other all count -/
theorem sinceClear_add (es : List α) : ∀ fs : List α,
    sinceClear (es.map .add) fs = fs ++ es := by
  induction es with
  | nil => exact fun fs => (List.append_nil fs).symm
  | cons a es ih =>
    intro fs
    show sinceClear (es.map .add) (fs ++ [a]) = _
    rw [ih, List.append_assoc, List.singleton_append]

/-! ## The newest entries -/

/-- the newest entry of the log is that of the list -/
theorem Retains.last?_eq (h : l.Retains es) : l.last? = es.getLast? := by
  cases hlast : es.getLast? with
  | none =>
    rw [List.getLast?_eq_none_iff] at hlast
    rw [last?, List.getLast?_eq_none_iff, ← List.suffix_nil, ← hlast]
    exact h.suffix
  | some a =>
    obtain ⟨init, rfl⟩ := List.getLast?_eq_some_iff.mp hlast
    have hpos := l.capacity_pos
    have hsize : l.entries.length = min l.capacity (init ++ [a]).length := h.size_eq
    rw [List.length_append, List.length_singleton] at hsize
    have hne : l.entries ≠ [] := List.ne_nil_of_length_pos (by omega)
    obtain ⟨older, holder⟩ := h.suffix
    rw [last?, ← List.getLast?_append_of_ne_nil older hne, holder, List.getLast?_concat]

theorem newest_of_nonpos {n : Int} (h : n ≤ 0) (l : Log α) : l.newest n = [] := by
  rw [newest, Int.toNat_of_nonpos h, Nat.sub_zero, List.drop_length]

theorem newest_suffix (l : Log α) (n : Int) : l.newest n <:+ l.entries := List.drop_suffix _ _

theorem length_newest (l : Log α) (n : Int) : (l.newest n).length = min n.toNat l.size := by
  rw [newest, List.length_drop, size]
  omega

/-- The log is the end of the entries that were added to it, as long as its capacity `c` allows, and
so are its newest entry and its newest few. -/
structure IsEnd (l : Log α) (c : Nat) (es : List α) : Prop where
  suffix : l.entries <:+ es
  length : l.entries.length = min c es.length
  last : l.last? = es.getLast?
  newest_of_nonpos : ∀ n : Int, n ≤ 0 → l.newest n = []
  newest_suffix : ∀ n : Int, 0 < n → l.newest n <:+ l.entries
  length_newest : ∀ n : Int, 0 < n → ((l.newest n).length : Int) = min n l.entries.length

/-- **What is added to a log that is empty at first** -/
theorem isEnd_changes {c : Nat} (hc : 0 < c) (cs : List (Change α)) :
    (cs.foldl change (empty c hc)).IsEnd c (sinceClear cs []) := by
  have hretains := (retains_empty c hc).changes cs
  have hcapacity := capacity_changes cs (empty c hc : Log α)
  generalize cs.foldl change (empty c hc) = l at hretains hcapacity ⊢
  refine ⟨hretains.suffix, ?_, hretains.last?_eq, fun n hn => newest_of_nonpos hn l,
    fun n _ => newest_suffix l n, fun n hn => ?_⟩
  · exact hretains.size_eq.trans (by rw [hcapacity]; rfl)
  · have hlength := l.length_newest n
    rw [size] at hlength
    omega

end Log

/-! ## The two logs -/

namespace History

/-- what is done to a history -/
inductive Change
  | record (expression : Text) (result : Float) (now : TimeOfDay)
  | clear
deriving DecidableEq, Repr

def change (h : History) : Change → History
  | .record expression result now => h.record expression result now
  | .clear => h.clear

/-- the entry that is added -/
def Change.onLog : Change → Log.Change Operation
  | .record expression result now => .add ⟨expression, result, now⟩
  | .clear => .clear

theorem foldl_change (cs : List Change) (h : History) :
    cs.foldl change h = (cs.map Change.onLog).foldl Log.change h := by
  have hstep : change = fun h c => Log.change h c.onLog := by
    funext h c
    cases c <;> rfl
  rw [List.foldl_map, hstep]

end History

namespace ErrorLog

/-- what is done to an error log -/
inductive Change
  | report (kind : ErrorKind) (message detail : Option Text)
  | failure (e : Failure)
  | clear
deriving DecidableEq, Repr

def change (l : ErrorLog) : Change → ErrorLog
  | .report kind message detail => l.report kind message detail
  | .failure e => l.reportFailure e
  | .clear => l.clear

/-- the record that is added: its message is that of the kind unless another one is given, and a
failure that is no error of a kind is an unknown one -/
def Change.onLog : Change → Log.Change ErrorRecord
  | .report kind none detail | .failure (.known kind detail) =>
    .add ⟨kind, kind.message.toList, detail⟩
  | .report kind (some message) detail => .add ⟨kind, message, detail⟩
  | .failure (.other t) => .add ⟨.unknown, "Unknown error".toList, some t⟩
  | .clear => .clear

theorem foldl_change (cs : List Change) (l : ErrorLog) :
    cs.foldl change l = (cs.map Change.onLog).foldl Log.change l := by
  have hstep : change = fun l c => Log.change l c.onLog := by
    funext l c
    cases c with
    | report kind message detail => cases message <;> rfl
    | failure e => cases e <;> rfl
    | clear => rfl
  rw [List.foldl_map, hstep]

end ErrorLog

/-! ## Searching -/

namespace History

theorem occursIn_eq_decide (s t : Text) : occursIn s t = decide (s <:+: t) := by
  rw [Bool.eq_iff_iff, occursIn_eq_true_iff, decide_eq_true_iff]
  constructor
  · rintro ⟨a, b, rfl⟩
    exact ⟨a, b, rfl⟩
  · rintro ⟨a, b, h⟩
    exact ⟨a, b, h.symm⟩

/-- folding keeps parts of a text parts of it -/
theorem caseFold_infix {s t : Text} (h : s <:+: t) : caseFold s <:+: caseFold t := by
  obtain ⟨a, b, rfl⟩ := h
  exact ⟨caseFold a, caseFold b, by rw [caseFold_append, caseFold_append]⟩

theorem search_sensitive {term : Text} (h : isBlankText term = false) (l : History) :
    search l term true = l.entries.filter fun o => decide (term <:+: o.expression) := by
  rw [search, h]
  refine List.filter_congr fun o _ => ?_
  exact occursIn_eq_decide term o.expression

theorem search_insensitive {term : Text} (h : isBlankText term = false) (l : History) :
    search l term false =
      l.entries.filter fun o => decide (caseFold term <:+: caseFold o.expression) := by
  rw [search, h]
  refine List.filter_congr fun o _ => ?_
  exact occursIn_eq_decide (caseFold term) (caseFold o.expression)

/-- what is found with case is found without it -/
theorem search_sublist (l : History) (term : Text) :
    (search l term true).Sublist (search l term false) := by
  cases h : isBlankText term with
  | true => rw [search, search, h]; exact .refl _
  | false =>
    rw [search_sensitive h, search_insensitive h]
    refine List.monotone_filter_right _ fun o ho => ?_
    rw [decide_eq_true_eq] at ho ⊢
    exact caseFold_infix ho

end History

/-! ## Main result -/

/-- **A log is the end of a list without a bound.**  There is none of a capacity that is not
positive.  A log of any other, empty at first, holds the newest of the entries added since it was
last cleared, in their order, and as many of them as it can; its newest entry is the newest of them,
and its newest few are its end.  So does a history of the calculations recorded in it, and an error
log of the errors and failures reported to it.  A search for a term that is not blank finds the
entries whose expression contains the term, both folded unless case counts, in their order, and
without case it finds all that it finds with it. -/
theorem retains_newest :
    (∀ (α : Type) (c : Int), c ≤ 0 →
      (Log.ofCapacity c : Except CapacityError (Log α)) = .error .notPositive) ∧
    (∀ (α : Type) (c : Nat) (hc : 0 < c),
      (c ≤ Log.maxCapacity →
        (Log.ofCapacity c : Except CapacityError (Log α)) = .ok (Log.empty c hc)) ∧
      ∀ cs : List (Log.Change α),
        (cs.foldl Log.change (Log.empty c hc)).IsEnd c (Log.sinceClear cs [])) ∧
    (∀ (c : Nat) (hc : 0 < c) (cs : List History.Change),
      (cs.foldl History.change (Log.empty c hc)).IsEnd c
        (Log.sinceClear (cs.map History.Change.onLog) [])) ∧
    (∀ (c : Nat) (hc : 0 < c) (cs : List ErrorLog.Change),
      (cs.foldl ErrorLog.change (Log.empty c hc)).IsEnd c
        (Log.sinceClear (cs.map ErrorLog.Change.onLog) [])) ∧
    ∀ (h : History) (term : Text), isBlankText term = false →
      History.search h term true =
        h.entries.filter (fun o => decide (term <:+: o.expression)) ∧
      History.search h term false =
        h.entries.filter (fun o => decide (caseFold term <:+: caseFold o.expression)) ∧
      (History.search h term true).Sublist (History.search h term false) := by
  refine ⟨fun α c hc => Log.ofCapacity_of_nonpos hc, ?_, ?_, ?_, ?_⟩
  · exact fun α c hc => ⟨Log.ofCapacity_of_pos hc, Log.isEnd_changes hc⟩
  · intro c hc cs
    rw [History.foldl_change]
    exact Log.isEnd_changes hc _
  · intro c hc cs
    rw [ErrorLog.foldl_change]
    exact Log.isEnd_changes hc _
  · intro h term hterm
    exact ⟨History.search_sensitive hterm h, History.search_insensitive hterm h,
      History.search_sublist h term⟩

/-- Three calculations behind a clearing, of which a history of two keeps two.  `SIN` is found in
the newest one without case only; a blank is no term.  An error log of one keeps the last of three
reports, with what it was reported under. -/
theorem retains_newest_two :
    let o : Text → Operation := fun t => ⟨t, 1, ⟨8, 30, 0⟩⟩
    let record : Text → History.Change := fun t => .record t 1 ⟨8, 30, 0⟩
    let cs : List History.Change :=
      [record ['1'], .clear, record ['2'], record "1+0".toList, record "sin(90)".toList]
    let h : History := cs.foldl History.change (Log.empty 2 (by decide))
    let l : ErrorLog :=
      [.report .math none none, .failure (.known .domain none), .failure (.other ['?'])].foldl
        ErrorLog.change (Log.empty 1 (by decide))
    (Log.ofCapacity 0 : Except CapacityError History) = .error .notPositive ∧
      (Log.ofCapacity 2 : Except CapacityError History) = .ok (Log.empty 2 (by decide)) ∧
      Log.sinceClear (cs.map History.Change.onLog) [] =
        [o ['2'], o "1+0".toList, o "sin(90)".toList] ∧
      h.entries = [o "1+0".toList, o "sin(90)".toList] ∧
      h.last? = some (o "sin(90)".toList) ∧ h.newest 0 = [] ∧
      (h.newest 1).length = 1 ∧ isBlankText "SIN".toList = false ∧
      History.search h "SIN".toList true = [] ∧
      History.search h "SIN".toList false = [o "sin(90)".toList] ∧
      l.last? = some ⟨.unknown, "Unknown error".toList, some ['?']⟩ := by
  intro o record cs h l
  obtain ⟨hrefused, hlogs, hhistories, herrors, hsearch⟩ := retains_newest
  have hh := hhistories 2 (by decide) cs
  obtain ⟨htrue, hfalse, -⟩ := hsearch h "SIN".toList (by decide +kernel)
  refine ⟨hrefused Operation 0 (by decide), (hlogs Operation 2 (by decide)).1 (by decide), rfl,
    rfl, hh.last, hh.newest_of_nonpos 0 (by decide), ?_, by decide +kernel, ?_, ?_,
    (herrors 1 (by decide) _).last⟩
  · exact_mod_cast hh.length_newest 1 (by decide)
  · rw [htrue]
    decide +kernel
  · rw [hfalse]
    decide +kernel

end PocketCalc
