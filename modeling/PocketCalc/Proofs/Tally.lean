import Mathlib
import PocketCalc.Log.Errors
import PocketCalc.Proofs.Retention

/-!
# The statistics of an error log

The kinds in a log are counted one after the other, and the counts are sorted.  The sort is stable,
so of two kinds that occur equally often the one that appears first stays in front.  When the log is
full, each report takes the oldest one out of it, and that changes both the counts and the order in
which the kinds appear; the statistics are those of what is left.

* `keys_countOne`, ...         what one more of a kind does to the counts;
* `Tallied ks counts`         the counts of the kinds `ks`, in the order in which these appear;
* `tallied_tally`             the counting gives them;
* `countOf`                   how often a kind is counted in the statistics of a log;
* `Leads ks k`                no kind is before `k` in number, and none of equal number in the list;
* `leads_of_statistics`       the first kind of the statistics leads;
* `statistics_of_changes`     all of it, for a log that was filled and cleared in any way.
-/

namespace PocketCalc.ErrorLog

variable {ks : List ErrorKind} {counts : List (ErrorKind × Nat)}

/-! ## Counting -/

/-- one more of a kind leaves the kinds where they are, and puts one that is new behind them -/
theorem keys_countOne (counts : List (ErrorKind × Nat)) (k : ErrorKind) :
    (countOne counts k).map Prod.fst =
      if k ∈ counts.map Prod.fst then counts.map Prod.fst else counts.map Prod.fst ++ [k] := by
  induction counts with
  | nil => rfl
  | cons p rest ih =>
    obtain ⟨j, n⟩ := p
    by_cases hj : j = k
    · subst hj
      rw [countOne, if_pos rfl, List.map_cons, List.map_cons, if_pos List.mem_cons_self]
    · have hmem : k ∈ j :: rest.map Prod.fst ↔ k ∈ rest.map Prod.fst := by
        rw [List.mem_cons]
        exact or_iff_right (Ne.symm hj)
      rw [countOne, if_neg hj, List.map_cons, List.map_cons, ih]
      show j :: ite _ _ _ = ite (k ∈ j :: rest.map Prod.fst) _ _
      rw [apply_ite (List.cons j)]
      exact if_congr hmem.symm rfl rfl

theorem sum_countOne (counts : List (ErrorKind × Nat)) (k : ErrorKind) :
    ((countOne counts k).map Prod.snd).sum = (counts.map Prod.snd).sum + 1 := by
  induction counts with
  | nil => rfl
  | cons p rest ih =>
    obtain ⟨j, n⟩ := p
    by_cases hj : j = k
    · rw [countOne, if_pos hj, List.map_cons, List.map_cons, List.sum_cons, List.sum_cons]
      show n + 1 + _ = n + _ + 1
      omega
    · rw [countOne, if_neg hj, List.map_cons, List.map_cons, List.sum_cons, List.sum_cons, ih]
      omega

/-- where each kind has its number, it has that of one more -/
theorem snd_of_mem_countOne {f : ErrorKind → Nat} {k : ErrorKind} :
    ∀ {counts : List (ErrorKind × Nat)}, (counts.map Prod.fst).Nodup →
      (∀ p ∈ counts, p.2 = f p.1) → (k ∉ counts.map Prod.fst → f k = 0) →
      ∀ p ∈ countOne counts k, p.2 = f p.1 + if p.1 = k then 1 else 0 := by
  intro counts
  induction counts with
  | nil =>
    intro _ _ hnew p hp
    rw [List.mem_singleton.mp hp, hnew List.not_mem_nil, if_pos rfl]
  | cons q rest ih =>
    intro hnodup hcounted hnew p hp
    obtain ⟨j, n⟩ := q
    obtain ⟨hj, hrest⟩ := List.nodup_cons.mp hnodup
    obtain ⟨hn, hothers⟩ := List.forall_mem_cons.mp hcounted
    by_cases hjk : j = k
    · subst hjk
      rw [countOne, if_pos rfl] at hp
      rcases List.mem_cons.mp hp with rfl | hp
      · rw [if_pos rfl]
        exact congrArg (· + 1) hn
      · have hfst : p.1 ∈ rest.map Prod.fst := List.mem_map_of_mem hp
        have hne : p.1 ≠ j := fun heq => hj (heq ▸ hfst)
        rw [if_neg hne, Nat.add_zero]
        exact hothers p hp
    · rw [countOne, if_neg hjk] at hp
      rcases List.mem_cons.mp hp with rfl | hp
      · rw [if_neg hjk, Nat.add_zero]
        exact hn
      · refine ih hrest hothers (fun hk => hnew ?_) p hp
        rw [List.map_cons, List.mem_cons, not_or]
        exact ⟨Ne.symm hjk, hk⟩

/-- the numbers of occurrences of some kinds, in the order in which the kinds appear -/
structure Tallied (ks : List ErrorKind) (counts : List (ErrorKind × Nat)) : Prop where
  order : (counts.map Prod.fst).Pairwise fun i j => ks.idxOf i < ks.idxOf j
  listed : ∀ k, k ∈ counts.map Prod.fst ↔ k ∈ ks
  counted : ∀ p ∈ counts, p.2 = ks.count p.1
  total : (counts.map Prod.snd).sum = ks.length

theorem tallied_nil : Tallied [] [] :=
  ⟨.nil, fun _ => Iff.rfl, nofun, rfl⟩

theorem Tallied.nodup (h : Tallied ks counts) : (counts.map Prod.fst).Nodup :=
  h.order.imp fun hlt heq => absurd (heq ▸ hlt) (lt_irrefl _)

/-- the kinds that are listed appear where they did, whatever comes behind them -/
theorem Tallied.order_append (h : Tallied ks counts) (js : List ErrorKind) :
    (counts.map Prod.fst).Pairwise fun i j => (ks ++ js).idxOf i < (ks ++ js).idxOf j := by
  refine h.order.imp_of_mem ?_
  intro i j hi hj hlt
  rw [List.idxOf_append_of_mem ((h.listed i).mp hi), List.idxOf_append_of_mem ((h.listed j).mp hj)]
  exact hlt

/-- one more kind on both sides -/
theorem Tallied.step (h : Tallied ks counts) (k : ErrorKind) :
    Tallied (ks ++ [k]) (countOne counts k) := by
  have hnew : k ∉ counts.map Prod.fst → ks.count k = 0 := by
    rw [h.listed]
    exact List.count_eq_zero_of_not_mem
  constructor
  · rw [keys_countOne]
    split
    · exact h.order_append [k]
    rename_i hk
    rw [h.listed] at hk
    rw [List.pairwise_append]
    refine ⟨h.order_append [k], List.pairwise_singleton _ _, fun i hi j hj => ?_⟩
    have hi : i ∈ ks := (h.listed i).mp hi
    rw [List.mem_singleton.mp hj, List.idxOf_append_of_mem hi, List.idxOf_append_of_notMem hk]
    exact Nat.lt_add_right _ (List.idxOf_lt_length_iff.mpr hi)
  · intro j
    rw [keys_countOne, List.mem_append, List.mem_singleton, ← h.listed]
    split
    · rename_i hk
      exact ⟨.inl, fun hj => hj.elim id fun heq => heq ▸ hk⟩
    · rw [List.mem_append, List.mem_singleton]
  · intro p hp
    have hcounted := snd_of_mem_countOne (f := fun j => ks.count j) h.nodup h.counted hnew p hp
    rw [hcounted, List.count_append, List.count_singleton]
    simp only [beq_iff_eq, @eq_comm _ k]
  · rw [sum_countOne, h.total, List.length_append]
    rfl

theorem Tallied.foldl (js : List ErrorKind) : ∀ {ks : List ErrorKind}
    {counts : List (ErrorKind × Nat)}, Tallied ks counts →
      Tallied (ks ++ js) (js.foldl countOne counts) := by
  induction js with
  | nil =>
    intro ks counts h
    rw [List.append_nil]
    exact h
  | cons j js ih =>
    intro ks counts h
    rw [List.append_cons]
    exact ih (h.step j)

/-- **Counting one kind after the other gives the number of occurrences of each.** -/
theorem tallied_tally (ks : List ErrorKind) : Tallied ks (tally ks) := tallied_nil.foldl ks

/-! ## Sorting -/

/-- the more frequent one first -/
theorem perm_statistics (l : ErrorLog) : l.statistics.Perm (tally l.kinds) :=
  List.mergeSort_perm _ _

theorem falling_trans (p q r : ErrorKind × Nat) :
    decide (q.2 ≤ p.2) = true → decide (r.2 ≤ q.2) = true → decide (r.2 ≤ p.2) = true := by
  simp only [decide_eq_true_eq]
  omega

theorem falling_total (p q : ErrorKind × Nat) :
    (decide (q.2 ≤ p.2) || decide (p.2 ≤ q.2)) = true := by
  simp only [Bool.or_eq_true, decide_eq_true_eq]
  omega

theorem falling_statistics (l : ErrorLog) :
    l.statistics.Pairwise fun p q => q.2 ≤ p.2 :=
  (List.pairwise_mergeSort falling_trans falling_total _).imp of_decide_eq_true

/-- where one stands in front of another in a sorted list, it does so in the whole of it -/
theorem pair_sublist {α : Type} {R : α → α → Prop} {l : List α} {a b : α} (h : l.Pairwise R)
    (ha : a ∈ l) (hb : b ∈ l) (hne : a ≠ b) (hnot : ¬ R b a) : [a, b].Sublist l := by
  obtain ⟨before, after, rfl⟩ := List.append_of_mem hb
  rcases List.mem_append.mp ha with ha | ha
  · have hcons : [b].Sublist (b :: after) := List.cons_sublist_cons.mpr (List.nil_sublist _)
    exact (List.singleton_sublist.mpr ha).append hcons
  rcases List.mem_cons.mp ha with rfl | ha
  · exact absurd rfl hne
  · have hafter := (List.pairwise_append.mp h).2.1
    exact absurd (List.rel_of_pairwise_cons hafter ha) hnot

/-! ## The counts of a log -/

/-- how often a kind is counted in the statistics; one that is not listed, not at all -/
def countOf (l : ErrorLog) (k : ErrorKind) : Nat := (l.statistics.lookup k).getD 0

theorem mem_statistics_iff (l : ErrorLog) (k : ErrorKind) (n : Nat) :
    (k, n) ∈ l.statistics ↔ k ∈ l.kinds ∧ n = l.kinds.count k := by
  have htallied := tallied_tally l.kinds
  rw [(perm_statistics l).mem_iff]
  constructor
  · intro hmem
    exact ⟨(htallied.listed k).mp (List.mem_map_of_mem hmem), htallied.counted _ hmem⟩
  · rintro ⟨hk, rfl⟩
    obtain ⟨p, hp, rfl⟩ := List.mem_map.mp ((htallied.listed k).mpr hk)
    rw [← htallied.counted p hp]
    exact hp

theorem nodup_statistics (l : ErrorLog) : (l.statistics.map Prod.fst).Nodup :=
  ((perm_statistics l).map Prod.fst).nodup_iff.mpr (tallied_tally l.kinds).nodup

theorem countOf_eq_count (l : ErrorLog) (k : ErrorKind) : l.countOf k = l.kinds.count k := by
  rw [countOf]
  by_cases hk : k ∈ l.kinds
  · obtain ⟨before, after, hsplit⟩ := List.append_of_mem ((mem_statistics_iff l k _).mpr ⟨hk, rfl⟩)
    have hfirst : ∀ p ∈ before, (k != p.1) = true := by
      intro p hp
      have hnodup := nodup_statistics l
      rw [hsplit, List.map_append, List.map_cons, List.nodup_middle, List.nodup_cons] at hnodup
      rw [bne_iff_ne]
      intro hkp
      have hfst : p.1 ∈ before.map Prod.fst := List.mem_map_of_mem hp
      exact hnodup.1 (List.mem_append_left _ (hkp ▸ hfst))
    rw [List.lookup_eq_some_iff.mpr ⟨before, after, hsplit, hfirst⟩, Option.getD_some]
  · have hnone : l.statistics.lookup k = none := by
      rw [List.lookup_eq_none_iff]
      rintro ⟨j, n⟩ hp
      rw [bne_iff_ne]
      rintro rfl
      exact hk ((mem_statistics_iff l k n).mp hp).1
    rw [hnone, List.count_eq_zero_of_not_mem hk, Option.getD_none]

/-- the count of a kind is the number of its reports in the log -/
theorem countOf_eq (l : ErrorLog) (k : ErrorKind) :
    l.countOf k = (l.entries.filter fun r => r.kind = k).length := by
  rw [countOf_eq_count, kinds, List.count, List.countP_map, List.countP_eq_length_filter]
  rfl

theorem sum_statistics (l : ErrorLog) : (l.statistics.map Prod.snd).sum = l.entries.length := by
  rw [((perm_statistics l).map Prod.snd).sum_eq, (tallied_tally l.kinds).total, kinds,
    List.length_map]

/-! ## The most frequent kind -/

/-- of the kinds that occur, no other is more frequent, and none that is as frequent appears
earlier -/
def Leads (ks : List ErrorKind) (k : ErrorKind) : Prop :=
  k ∈ ks ∧ ∀ j ∈ ks, j ≠ k →
    ks.count j < ks.count k ∨ ks.count j = ks.count k ∧ ks.idxOf k < ks.idxOf j

theorem Leads.unique {j k : ErrorKind} (hj : Leads ks j) (hk : Leads ks k) : j = k := by
  by_contra hne
  have hjk := hk.2 j hj.1 hne
  have hkj := hj.2 k hk.1 (Ne.symm hne)
  omega

/-- the kind in front of the statistics leads -/
theorem leads_of_statistics {l : ErrorLog} {k : ErrorKind} {n : Nat}
    {rest : List (ErrorKind × Nat)} (h : l.statistics = (k, n) :: rest) : Leads l.kinds k := by
  have hfirst : (k, n) ∈ l.statistics := h ▸ List.mem_cons_self
  obtain ⟨hk, hn⟩ := (mem_statistics_iff l k n).mp hfirst
  refine ⟨hk, fun j hj hne => ?_⟩
  have hother : (j, l.kinds.count j) ∈ l.statistics := (mem_statistics_iff l j _).mpr ⟨hj, rfl⟩
  have hdiffer : (j, l.kinds.count j) ≠ (k, n) := fun heq => hne (congrArg Prod.fst heq)
  have hfalling : l.kinds.count j ≤ n := by
    have hpairs := falling_statistics l
    rw [h] at hpairs hother
    exact List.rel_of_pairwise_cons hpairs ((List.mem_cons.mp hother).resolve_left hdiffer)
  rw [← hn]
  rcases hfalling.lt_or_eq with hlt | heq
  · exact .inl hlt
  refine .inr ⟨heq, ?_⟩
  by_contra hlater
  -- the other kind would be counted first, and the sort would leave it in front
  have htally := (tallied_tally l.kinds).order
  rw [List.pairwise_map] at htally
  have hpair : [(j, l.kinds.count j), (k, n)].Sublist (tally l.kinds) :=
    pair_sublist htally ((perm_statistics l).mem_iff.mp hother)
      ((perm_statistics l).mem_iff.mp hfirst) hdiffer hlater
  have hstable : [(j, l.kinds.count j), (k, n)].Sublist l.statistics :=
    List.pair_sublist_mergeSort falling_trans falling_total (decide_eq_true heq.ge) hpair
  have hnodup := List.Nodup.of_map _ (nodup_statistics l)
  rw [h] at hstable hnodup
  rcases List.sublist_cons_iff.mp hstable with hin | ⟨r, hr, -⟩
  · exact (List.nodup_cons.mp hnodup).1 (hin.subset (by simp))
  · exact hdiffer (List.cons.inj hr).1

theorem mostCommon_eq_none_iff (l : ErrorLog) : l.mostCommon = none ↔ l.entries = [] := by
  rw [mostCommon, Option.map_eq_none_iff, List.head?_eq_none_iff]
  constructor
  · intro hnone
    have hsum := sum_statistics l
    rw [hnone] at hsum
    exact List.length_eq_zero_iff.mp hsum.symm
  · intro hnone
    have hnil := perm_statistics l
    rw [kinds, hnone] at hnil
    exact hnil.eq_nil

theorem mostCommon_eq_some_iff (l : ErrorLog) (k : ErrorKind) :
    l.mostCommon = some k ↔ Leads l.kinds k := by
  cases h : l.statistics with
  | nil =>
    have hnone : l.mostCommon = none := by rw [mostCommon, h]; rfl
    have hkinds : l.kinds = [] := by
      rw [kinds, (mostCommon_eq_none_iff l).mp hnone]
      rfl
    rw [hnone, hkinds]
    exact ⟨nofun, fun hleads => absurd hleads.1 List.not_mem_nil⟩
  | cons p rest =>
    obtain ⟨j, n⟩ := p
    have hleads := leads_of_statistics h
    have hsome : l.mostCommon = some j := by rw [mostCommon, h]; rfl
    rw [hsome, Option.some.injEq]
    constructor
    · rintro rfl
      exact hleads
    · exact hleads.unique

/-! ## Main result -/

/-- **The statistics describe what is left in the log.**  After any reports and clearings the log
holds the newest of the reports since it was last cleared, as many as it can; each kind is counted
as often as it occurs among them, and the counts add up to their number.  There is a most common
kind unless the log is empty, and that is the kind of the greatest count, of several such kinds the
one whose first report in the log comes earliest. -/
theorem statistics_of_changes (c : Nat) (hc : 0 < c) (cs : List Change) :
    let l : ErrorLog := cs.foldl change (Log.empty c hc)
    let es := Log.sinceClear (cs.map Change.onLog) []
    l.entries <:+ es ∧ l.entries.length = min c es.length ∧
      (∀ k, l.countOf k = (l.entries.filter fun r => r.kind = k).length) ∧
      (l.statistics.map Prod.snd).sum = l.entries.length ∧
      (l.mostCommon = none ↔ l.entries = []) ∧
      ∀ k, l.mostCommon = some k ↔
        k ∈ l.kinds ∧ ∀ j ∈ l.kinds, j ≠ k →
          l.countOf j < l.countOf k ∨
            l.countOf j = l.countOf k ∧ l.kinds.idxOf k < l.kinds.idxOf j := by
  intro l es
  have hend : l.IsEnd c es := by
    rw [show l = _ from foldl_change cs _]
    exact Log.isEnd_changes hc _
  refine ⟨hend.suffix, hend.length, countOf_eq l, sum_statistics l, mostCommon_eq_none_iff l, ?_⟩
  intro k
  simp only [countOf_eq_count]
  exact mostCommon_eq_some_iff l k

/-- Three reports, of which a log of two keeps two.  Without the third one a syntax error would be
the most common one; it takes the first report out of the log, and then a domain error is. -/
theorem statistics_of_changes_two :
    let cs : List Change :=
      [.report .syntaxError none none, .report .domain none none,
        .failure (.known .syntaxError none)]
    let l : ErrorLog := cs.foldl change (Log.empty 2 (by decide))
    l.entries = [⟨.domain, "Domain error".toList, none⟩,
        ⟨.syntaxError, "Syntax error".toList, none⟩] ∧
      l.countOf .syntaxError = 1 ∧ l.countOf .math = 0 ∧
      (l.statistics.map Prod.snd).sum = 2 ∧ l.mostCommon = some .domain := by
  intro cs l
  obtain ⟨-, -, hcount, hsum, -, hmost⟩ := statistics_of_changes 2 (by decide) cs
  refine ⟨rfl, hcount _, hcount _, hsum, (hmost _).mpr ⟨by decide, ?_⟩⟩
  intro j hj hne
  obtain rfl : j = .syntaxError := by
    revert j
    decide
  exact .inr ⟨(hcount .syntaxError).trans (hcount .domain).symm, by decide⟩

end PocketCalc.ErrorLog
