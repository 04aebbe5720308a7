import TextTemplate.Proofs.CoveringMappings

/-!
# Lookups stay inside one mapping

A lookup finds a mapping and then computes with its offsets and with those of the question
(`Span.rebase`): two differences and two sums, on numbers that may lie anywhere among the 64-bit
words, each of which may fail. If every copied text has the length of the place that it claims to
come from, none of them does. The mapping that is found lies around the range that is asked for, so
neither difference falls below zero; and the sums lead to offsets inside the other side of the
mapping, which are words already.
-/

namespace TextTemplate

namespace Mapping

/-! ## Mappings with two sides of one length -/

/-- **A mapping with two sides of one length**, both of which end at words. -/
structure Level (m : Mapping) : Prop where
  width : ∃ n, m.generated.stop = m.generated.start + n
    ∧ m.origin.span.stop = m.origin.span.start + n
  generated : m.generated.stop < UInt64.size
  origin : m.origin.span.stop < UInt64.size

namespace Level

variable {m : Mapping} {span : Span}

/-- What is carried from one side is carried into the other, and is as long. -/
theorem carry (h : m.Level) (hle : span.start ≤ span.stop) (hstart : m.generated.start ≤ span.start)
    (hstop : span.stop ≤ m.generated.stop) :
    m.origin.span.start ≤ (m.carry span).span.start
      ∧ (m.carry span).span.stop ≤ m.origin.span.stop
      ∧ (m.carry span).span.stop = (m.carry span).span.start + span.length := by
  obtain ⟨n, hgenerated, horigin⟩ := h.width
  simp only [Mapping.carry, Span.length]
  omega

/-- The same in the other direction. -/
theorem carryBack (h : m.Level) (hle : span.start ≤ span.stop)
    (hstart : m.origin.span.start ≤ span.start) (hstop : span.stop ≤ m.origin.span.stop) :
    m.generated.start ≤ (m.carryBack span).start
      ∧ (m.carryBack span).stop ≤ m.generated.stop
      ∧ (m.carryBack span).stop = (m.carryBack span).start + span.length := by
  obtain ⟨n, hgenerated, horigin⟩ := h.width
  simp only [Mapping.carryBack, Span.length]
  omega

end Level

/-! ## What is found -/

/-- **Mappings that follow each other in the text**, each with two sides of one length. -/
structure Levels (ms : List Mapping) : Prop where
  level : ∀ m ∈ ms, m.Level
  apart : ms.Pairwise fun a b => a.generated.stop ≤ b.generated.start

namespace Levels

variable {ms : Array Mapping}

theorem consecutive (h : Levels ms.toList) : Consecutive ms.toList := by
  refine ⟨fun m hm => ?_, h.apart⟩
  obtain ⟨n, hgenerated, -⟩ := (h.level m hm).width
  omega

theorem ordered (h : Levels ms.toList) : Ordered ms.toList := h.consecutive.ordered

/-- **If a mapping covers a range, one is found.** -/
theorem exists_containing? (h : Levels ms.toList) {span : Span} {m : Mapping}
    (hm : m ∈ ms.toList) (hstart : m.generated.start ≤ span.start)
    (hstop : span.stop ≤ m.generated.stop) :
    ∃ found, containing? ms span = some found :=
  Option.isSome_iff_exists.mp ((h.consecutive.isSome_containing?_iff span).mpr
    ⟨m, Array.mem_toList_iff.mp hm, covers_eq_true_iff.mpr ⟨hstart, hstop⟩⟩)

/-- **The origin of a range is found without overflow**, inside the origin of the mapping around the
range. -/
theorem exists_toOrigin?_eq (h : Levels ms.toList) (span : Span) :
    ∃ found, toOrigin? ms span = .ok found
      ∧ (∀ origin, found = some origin → span.start ≤ span.stop
          ∧ origin.span.stop = origin.span.start + span.length
          ∧ ∃ m ∈ ms, origin = m.carry span
            ∧ m.origin.span.start ≤ origin.span.start ∧ origin.span.stop ≤ m.origin.span.stop)
      ∧ (found.isSome = true ↔ span.start ≤ span.stop
          ∧ ∃ m ∈ ms, m.generated.start ≤ span.start ∧ span.stop ≤ m.generated.stop) := by
  by_cases hspan : span.start ≤ span.stop
  · cases hm : containing? ms span with
    | none =>
      refine ⟨none, toOrigin?_of_containing_none hm, nofun, nofun, ?_⟩
      rintro ⟨-, m, hmem, hstart, hstop⟩
      obtain ⟨found, hfound⟩ := h.exists_containing? (Array.mem_toList_iff.mpr hmem) hstart hstop
      rw [hm] at hfound
      cases hfound
    | some m =>
      obtain ⟨front, back, hms, hstart, hstop, -⟩ := (containing?_eq_some_iff h.ordered).mp hm
      have hmem : m ∈ ms.toList := hms ▸ List.mem_append_right front List.mem_cons_self
      obtain ⟨hlo, hhi, hlength⟩ := (h.level m hmem).carry hspan hstart hstop
      have hfound : toOrigin? ms span = .ok (some (m.carry span)) := by
        rw [toOrigin?_of_containing hspan hm hstart,
          if_pos (Nat.lt_of_le_of_lt hhi (h.level m hmem).origin)]
      refine ⟨_, hfound, ?_, ?_⟩
      · rintro _ ⟨⟩
        exact ⟨hspan, hlength, m, Array.mem_toList_iff.mp hmem, rfl, hlo, hhi⟩
      · exact iff_of_true rfl ⟨hspan, m, Array.mem_toList_iff.mp hmem, hstart, hstop⟩
  · have hfound : toOrigin? ms span = .ok none := if_pos (Nat.lt_of_not_le hspan)
    exact ⟨none, hfound, nofun, nofun, fun hboth => absurd hboth.1 hspan⟩

/-- **Where a place of a document stands is found without overflow**, inside the text of a mapping
that comes from around the place. -/
theorem exists_toGenerated?_eq (h : Levels ms.toList) (fileId : Nat) (span : Span) :
    ∃ found, toGenerated? ms fileId span = .ok found
      ∧ (∀ generated, found = some generated → span.start ≤ span.stop
          ∧ generated.stop = generated.start + span.length
          ∧ ∃ m ∈ ms, m.origin.fileId = fileId ∧ generated = m.carryBack span
            ∧ m.generated.start ≤ generated.start ∧ generated.stop ≤ m.generated.stop)
      ∧ (found.isSome = true ↔ span.start ≤ span.stop ∧ ∃ m ∈ ms, m.origin.fileId = fileId
          ∧ m.origin.span.start ≤ span.start ∧ span.stop ≤ m.origin.span.stop) := by
  by_cases hspan : span.start ≤ span.stop
  · cases hm : ms.find? (comesFrom fileId span) with
    | none =>
      refine ⟨none, toGenerated?_of_find_none hm, nofun, nofun, ?_⟩
      rintro ⟨-, m, hmem, hfrom⟩
      exact absurd (comesFrom_eq_true_iff.mpr hfrom) (Array.find?_eq_none.mp hm m hmem)
    | some m =>
      have hmem := Array.mem_of_find?_eq_some hm
      obtain ⟨hfile, hstart, hstop⟩ := comesFrom_eq_true_iff.mp (Array.find?_some hm)
      have hlevel := h.level m (Array.mem_toList_iff.mpr hmem)
      obtain ⟨hlo, hhi, hlength⟩ := hlevel.carryBack hspan hstart hstop
      have hfound : toGenerated? ms fileId span = .ok (some (m.carryBack span)) := by
        rw [toGenerated?_of_find hspan hm, if_pos (Nat.lt_of_le_of_lt hhi hlevel.generated)]
      refine ⟨_, hfound, ?_, ?_⟩
      · rintro _ ⟨⟩
        exact ⟨hspan, hlength, m, hmem, hfile, rfl, hlo, hhi⟩
      · exact iff_of_true rfl ⟨hspan, m, hmem, hfile, hstart, hstop⟩
  · have hfound : toGenerated? ms fileId span = .ok none := if_pos (Nat.lt_of_not_le hspan)
    exact ⟨none, hfound, nofun, nofun, fun hboth => absurd hboth.1 hspan⟩

end Levels

end Mapping

/-! ## Texts with copies of the right length -/

namespace MappedText

/-- **A copied text has the length of its origin**, which is in order and ends at a word. -/
def IsSized (text : String) (origin : Origin) : Prop :=
  origin.span.start ≤ origin.span.stop
    ∧ origin.span.stop - origin.span.start = text.utf8ByteSize
    ∧ origin.span.stop < UInt64.size

/-- The mappings of a text whose copies have the right length follow each other. -/
theorem Made.levels {m : MappedText} (h : m.Made IsSized) (hsize : m.size < UInt64.size) :
    Mapping.Levels m.mappings.toList := by
  refine ⟨fun mapping hmapping => ?_, ?_⟩
  · obtain ⟨hinside, text, ⟨hle, hlength, hword⟩, hstop⟩ := h.of_mem_mappings hmapping
    refine ⟨⟨text.utf8ByteSize, hstop, ?_⟩, Nat.lt_of_le_of_lt hinside hsize, hword⟩
    rw [← hlength, Nat.add_sub_cancel' hle]
  · obtain ⟨ps, rfl, -⟩ := h.exists_pieces
    exact Mapping.pairwise_mappingsFrom 0 ps

/-- **Every lookup is free of overflow and stays inside one mapping.** Let a text be put together by
any operations, with copies that have the length of the places they come from, wherever these lie
among the words; the text itself has the length of a word. Whatever is asked, no sum and no difference
of a lookup fails. An origin that is found is as long as the range that was asked for and lies inside
the origin of one mapping, as far behind its start as the range is behind the start of the mapping;
and so does what is found in the other direction. Something is found exactly if a mapping covers what
was asked for. -/
theorem Made.lookups_inside_one_mapping {m : MappedText} (h : m.Made IsSized)
    (hsize : m.size < UInt64.size) :
    (∀ span : Span, ∃ found, Mapping.toOrigin? m.mappings span = .ok found
        ∧ (∀ origin, found = some origin → span.start ≤ span.stop
            ∧ origin.span.stop = origin.span.start + span.length
            ∧ ∃ mapping ∈ m.mappings, origin = mapping.carry span
              ∧ mapping.origin.span.start ≤ origin.span.start
              ∧ origin.span.stop ≤ mapping.origin.span.stop)
        ∧ (found.isSome = true ↔ span.start ≤ span.stop ∧ ∃ mapping ∈ m.mappings,
            mapping.generated.start ≤ span.start ∧ span.stop ≤ mapping.generated.stop))
      ∧ ∀ (fileId : Nat) (span : Span), ∃ found,
        Mapping.toGenerated? m.mappings fileId span = .ok found
          ∧ (∀ generated, found = some generated → span.start ≤ span.stop
              ∧ generated.stop = generated.start + span.length
              ∧ ∃ mapping ∈ m.mappings, mapping.origin.fileId = fileId
                ∧ generated = mapping.carryBack span
                ∧ mapping.generated.start ≤ generated.start
                ∧ generated.stop ≤ mapping.generated.stop)
          ∧ (found.isSome = true ↔ span.start ≤ span.stop ∧ ∃ mapping ∈ m.mappings,
              mapping.origin.fileId = fileId
                ∧ mapping.origin.span.start ≤ span.start ∧ span.stop ≤ mapping.origin.span.stop) :=
  ⟨(h.levels hsize).exists_toOrigin?_eq, (h.levels hsize).exists_toGenerated?_eq⟩

/-- A text that holds a letter of two bytes from the last place of the words and an empty copy behind
it, and then both once more. -/
def farCopies : MappedText :=
  let once := (({} : MappedText).pushMapped "é" ⟨7, ⟨18446744073709551613, 18446744073709551615⟩⟩)
    |>.pushMapped "" ⟨7, ⟨18446744073709551615, 18446744073709551615⟩⟩
  once.append once

theorem made_farCopies : farCopies.Made IsSized := by
  have hempty : ({} : MappedText).Made IsSized := .empty
  have hletter := hempty.pushMapped "é" ⟨7, ⟨18446744073709551613, 18446744073709551615⟩⟩
    ⟨by decide, by decide, by decide⟩
  have honce := hletter.pushMapped "" ⟨7, ⟨18446744073709551615, 18446744073709551615⟩⟩
    ⟨by decide, by decide, by decide⟩
  exact honce.append honce

/-- The second byte of the second letter comes from the last byte of the words, and is found there
with no check failing. From the other side the first copy counts. -/
theorem Made.lookups_inside_one_mapping_far :
    farCopies.Made IsSized ∧ farCopies.size < UInt64.size
      ∧ Mapping.toOrigin? farCopies.mappings ⟨3, 4⟩
        = .ok (some ⟨7, ⟨18446744073709551614, 18446744073709551615⟩⟩)
      ∧ Mapping.toGenerated? farCopies.mappings 7
          ⟨18446744073709551615, 18446744073709551615⟩ = .ok (some ⟨2, 2⟩) := by
  have hsize : farCopies.size < UInt64.size := by decide
  obtain ⟨hback, hover⟩ := Made.lookups_inside_one_mapping made_farCopies hsize
  refine ⟨made_farCopies, hsize, ?_, ?_⟩
  · obtain ⟨found, hfound, -⟩ := hback ⟨3, 4⟩
    have hvalue : (Mapping.toOrigin? farCopies.mappings ⟨3, 4⟩).toOption
        = some (some ⟨7, ⟨18446744073709551614, 18446744073709551615⟩⟩) := by
      decide +kernel
    rw [hfound] at hvalue
    rw [hfound, Option.some.inj hvalue]
  · obtain ⟨found, hfound, -⟩ :=
      hover 7 ⟨18446744073709551615, 18446744073709551615⟩
    have hvalue : (Mapping.toGenerated? farCopies.mappings 7
        ⟨18446744073709551615, 18446744073709551615⟩).toOption = some (some ⟨2, 2⟩) := by
      decide +kernel
    rw [hfound] at hvalue
    rw [hfound, Option.some.inj hvalue]

end MappedText

end TextTemplate
