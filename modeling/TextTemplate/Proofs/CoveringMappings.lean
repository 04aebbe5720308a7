import TextTemplate.Proofs.Lookups

/-!
# Halving finds what a scan would find

The mapping around a range is looked for by halving, which ends at the last mapping that starts no
later than the range, and then looks at that one alone. A scan would look at all of them. The two
agree because the mappings of a text that was put together stand one behind another
(`Mapping.Consecutive`): if some mapping covers the range and another one behind it also starts no
later than the range, then the first one ends where the second one starts, so the range is empty,
stands right there, and is covered by the second one as well.

So what is found is the last one of the mappings that cover the range
(`Consecutive.containing?_eq_getLast?`). There can be several of them only at a seam of copied
pieces, where the range is empty; a range that is not empty is covered by one mapping at most.
-/

namespace TextTemplate

namespace Mapping

/-! ## Mappings one behind another -/

/-- **Mappings that stand one behind another**: none ends before it starts, and each one ends before
those behind it start. Nothing is said of where they come from, and empty ones may share a place. -/
structure Consecutive (ms : List Mapping) : Prop where
  start_le_stop : ∀ m ∈ ms, m.generated.start ≤ m.generated.stop
  apart : ms.Pairwise fun a b => a.generated.stop ≤ b.generated.start

theorem covers_eq_true_iff {span : Span} {m : Mapping} :
    m.covers span = true ↔ m.generated.start ≤ span.start ∧ span.stop ≤ m.generated.stop := by
  rw [covers, Bool.and_eq_true, decide_eq_true_eq, decide_eq_true_eq]

namespace Consecutive

variable {ms : Array Mapping} {span : Span}

theorem ordered (h : Consecutive ms.toList) : Ordered ms.toList :=
  h.apart.imp_of_mem fun ha _ hab => Nat.le_trans (h.start_le_stop _ ha) hab

/-- **A mapping that starts no later than a range takes over from one in front of it**: if that one
covers the range, it does so too. -/
theorem covers_of_front {front back : List Mapping} {a b : Mapping}
    (h : Consecutive (front ++ a :: back)) (hb : b ∈ back) (ha : a.covers span = true)
    (hstart : b.generated.start ≤ span.start) :
    b.covers span = true := by
  have hbelow : b.generated.start ≤ b.generated.stop :=
    h.start_le_stop b (List.mem_append_right front (List.mem_cons_of_mem a hb))
  have hapart : a.generated.stop ≤ b.generated.start :=
    List.rel_of_pairwise_cons (List.pairwise_append.mp h.apart).2.1 hb
  refine covers_eq_true_iff.mpr ⟨hstart, ?_⟩
  calc span.stop ≤ a.generated.stop := (covers_eq_true_iff.mp ha).2
    _ ≤ b.generated.start := hapart
    _ ≤ b.generated.stop := hbelow

/-- **Halving finds the last mapping that covers a range.** -/
theorem containing?_eq_getLast? (h : Consecutive ms.toList) (span : Span) :
    containing? ms span = (ms.toList.filter (covers span)).getLast? := by
  refine Option.ext fun m => ?_
  rw [containing?_eq_some_iff h.ordered, List.getLast?_eq_some_iff]
  constructor
  · rintro ⟨front, back, hms, hstart, hstop, hback⟩
    have hnone : back.filter (covers span) = [] := by
      refine List.filter_eq_nil_iff.mpr fun b hb hcovers => ?_
      exact Nat.not_le.mpr (hback b hb) (covers_eq_true_iff.mp hcovers).1
    refine ⟨front.filter (covers span), ?_⟩
    rw [hms, List.filter_append,
      List.filter_cons_of_pos (covers_eq_true_iff.mpr ⟨hstart, hstop⟩), hnone]
  · rintro ⟨others, hfilter⟩
    obtain ⟨front', rest, hms, -, hrest⟩ := List.filter_eq_append_iff.mp hfilter
    obtain ⟨front, back, rfl, -, hcovers, hback⟩ := List.filter_eq_cons_iff.mp hrest
    rw [← List.append_assoc] at hms
    obtain ⟨hstart, hstop⟩ := covers_eq_true_iff.mp hcovers
    refine ⟨front' ++ front, back, hms, hstart, hstop, fun b hb => ?_⟩
    -- a mapping behind that starts no later would be a later one that covers the range
    refine Nat.lt_of_not_le fun hle => ?_
    rw [hms] at h
    exact List.filter_eq_nil_iff.mp hback b hb (h.covers_of_front hb hcovers hle)

/-- **Something is found exactly if some mapping covers the range.** -/
theorem isSome_containing?_iff (h : Consecutive ms.toList) (span : Span) :
    (containing? ms span).isSome = true ↔ ∃ m ∈ ms, m.covers span = true := by
  rw [h.containing?_eq_getLast?, List.getLast?_isSome, ne_eq, List.eq_nil_iff_forall_not_mem,
    Classical.not_forall_not]
  simp only [List.mem_filter, Array.mem_toList_iff]

/-- **A range that is not empty is covered by one mapping at most.** -/
theorem filter_covers_eq_singleton (h : Consecutive ms.toList) (hspan : span.start < span.stop)
    {m : Mapping} (hm : containing? ms span = some m) : ms.toList.filter (covers span) = [m] := by
  rw [h.containing?_eq_getLast?, List.getLast?_eq_some_iff] at hm
  obtain ⟨others, hfilter⟩ := hm
  have hcovers : ∀ a ∈ others ++ [m], a.covers span = true := by
    intro a ha
    rw [← hfilter] at ha
    exact (List.mem_filter.mp ha).2
  have hapart := h.apart.filter (covers span)
  rw [hfilter] at hapart ⊢
  cases others with
  | nil => rfl
  | cons a others =>
    -- two of them would have the whole range in common
    have hmem : m ∈ others ++ [m] := List.mem_append_right others (List.mem_singleton_self m)
    have hle := List.rel_of_pairwise_cons hapart hmem
    have ha := covers_eq_true_iff.mp (hcovers a List.mem_cons_self)
    have hm := covers_eq_true_iff.mp (hcovers m (List.mem_cons_of_mem a hmem))
    omega

end Consecutive

end Mapping

namespace MappedText

open Mapping

/-- **Whatever the operations have put together has its mappings one behind another.** -/
theorem Made.consecutive {P : String → Origin → Prop} {m : MappedText} (h : m.Made P) :
    Consecutive m.mappings.toList := by
  obtain ⟨ps, rfl, -⟩ := h.exists_pieces
  exact ⟨fun _ hm => (Piece.bounds_of_mem_mappingsFrom hm).2.1, pairwise_mappingsFrom 0 ps⟩

/-- **Halving agrees with a scan of all mappings.** Let a text be put together by any operations,
with copies of any length, empty ones included, from anywhere. For any range a mapping is found
exactly if some mapping covers the range, both ends included, and then it is the last one that does.
If the range is in order and not empty, it is the only one. -/
theorem Made.containing?_eq_scan {P : String → Origin → Prop} {m : MappedText} (h : m.Made P)
    (span : Span) :
    ((containing? m.mappings span).isSome = true
        ↔ ∃ mapping ∈ m.mappings, mapping.covers span = true)
      ∧ containing? m.mappings span = (m.mappings.toList.filter (covers span)).getLast?
      ∧ (span.start < span.stop → ∀ mapping, containing? m.mappings span = some mapping →
          m.mappings.toList.filter (covers span) = [mapping]) :=
  ⟨h.consecutive.isSome_containing?_iff span, h.consecutive.containing?_eq_getLast? span,
    fun hlt _ hm => h.consecutive.filter_covers_eq_singleton hlt hm⟩

/-- Two copied pieces with an empty copy between them, and then all of it once more. -/
def seams : MappedText :=
  let once := ((({} : MappedText).push "<").pushMapped "é" ⟨1, ⟨4, 6⟩⟩
    |>.pushMapped "" ⟨1, ⟨9, 9⟩⟩).pushToken ⟨"b", ⟨7, 8⟩⟩ 1
  once.append once

theorem made_seams : seams.Made fun _ _ => True := by
  have hempty : ({} : MappedText).Made fun _ _ => True := .empty
  have honce := (((hempty.push "<").pushMapped "é" ⟨1, ⟨4, 6⟩⟩ trivial).pushMapped ""
    ⟨1, ⟨9, 9⟩⟩ trivial).pushToken ⟨"b", ⟨7, 8⟩⟩ 1 trivial
  exact honce.append honce

/-- At the seam in the second copy three mappings cover the empty range, and the last of them is
found. The byte behind the seam is covered by that one alone, and the byte in front of the second
copy by none. -/
theorem Made.containing?_eq_scan_seams :
    seams.mappings.toList.filter (covers ⟨7, 7⟩)
        = [⟨⟨5, 7⟩, ⟨1, ⟨4, 6⟩⟩⟩, ⟨⟨7, 7⟩, ⟨1, ⟨9, 9⟩⟩⟩, ⟨⟨7, 8⟩, ⟨1, ⟨7, 8⟩⟩⟩]
      ∧ containing? seams.mappings ⟨7, 7⟩ = some ⟨⟨7, 8⟩, ⟨1, ⟨7, 8⟩⟩⟩
      ∧ seams.mappings.toList.filter (covers ⟨7, 8⟩) = [⟨⟨7, 8⟩, ⟨1, ⟨7, 8⟩⟩⟩]
      ∧ containing? seams.mappings ⟨4, 5⟩ = none := by
  have hseam : seams.mappings.toList.filter (covers ⟨7, 7⟩)
      = [⟨⟨5, 7⟩, ⟨1, ⟨4, 6⟩⟩⟩, ⟨⟨7, 7⟩, ⟨1, ⟨9, 9⟩⟩⟩, ⟨⟨7, 8⟩, ⟨1, ⟨7, 8⟩⟩⟩] := by
    decide +kernel
  have hfound := (Made.containing?_eq_scan made_seams ⟨7, 7⟩).2.1
  obtain ⟨-, hbehind, honly⟩ := Made.containing?_eq_scan made_seams ⟨7, 8⟩
  have hnone := (Made.containing?_eq_scan made_seams ⟨4, 5⟩).2.1
  refine ⟨hseam, ?_, honly (by decide) _ ?_, ?_⟩
  · rw [hfound, hseam]
    rfl
  · rw [hbehind]
    decide +kernel
  · rw [hnone]
    decide +kernel

end MappedText

end TextTemplate
