import Mathlib
import TextTemplate.Proofs.CoveringMappings

/-!
# Texts put together by actions

A mapped text is put together by a list of actions (`TextAction.run`): fixed text and copied text are
added, another text that was put together itself, or the text so far once more. What such a text
remembers of its origins can be said without offsets: it is the list of the copies that the actions
make (`TextAction.copiesOf`). The mappings of the text are these copies in their order, each over
its own text and none over a part of another (`faithful_run`); this is read off the pieces of the
text, with which the actions do what they do with the text.

Texts form a monoid under `append`. An action that adds something adds the same thing to every text,
so it is an `append` (`perform_eq_append`), and a list of such actions can be performed elsewhere
and appended afterwards. Adding the text so far is no action of this kind: it doubles whatever was
there before, so the length of the result is no longer the sum of the lengths (`weight_run`).
-/

namespace TextTemplate

/-! ## Appending -/

namespace Mapping

theorem shift_shift (a b : Nat) (m : Mapping) : (m.shift b).shift a = m.shift (a + b) := by
  simp only [shift, Span.shift, Nat.add_assoc, Nat.add_comm b a]

theorem shift_zero (m : Mapping) : m.shift 0 = m := rfl

end Mapping

namespace MappedText

@[simp] theorem size_append (a b : MappedText) : (a.append b).size = a.size + b.size :=
  String.utf8ByteSize_append

/-- **Appending is associative**: mappings that move twice move by the sum. -/
theorem append_assoc (a b c : MappedText) :
    (a.append b).append c = a.append (b.append c) := by
  have hmappings : a.mappings ++ b.mappings.map (Mapping.shift a.size)
      ++ c.mappings.map (Mapping.shift (a.size + b.size))
      = a.mappings ++ (b.mappings ++ c.mappings.map (Mapping.shift b.size)).map
          (Mapping.shift a.size) := by
    rw [Array.map_append, Array.map_map, Array.append_assoc]
    simp only [Function.comp_def, Mapping.shift_shift]
  rw [append, size_append, append, append, append, String.append_assoc, hmappings]

@[simp] theorem empty_append (a : MappedText) : ({} : MappedText).append a = a := by
  have hmappings : (#[] : Array Mapping) ++ a.mappings.map (Mapping.shift 0) = a.mappings := by
    rw [funext Mapping.shift_zero, Array.map_id', Array.empty_append]
  show (⟨"" ++ a.text, #[] ++ a.mappings.map (Mapping.shift 0)⟩ : MappedText) = a
  rw [String.empty_append, hmappings]

@[simp] theorem append_empty (a : MappedText) : a.append {} = a := by
  have hmappings : a.mappings ++ (#[] : Array Mapping).map (Mapping.shift a.size) = a.mappings := by
    rw [Array.map_empty, Array.append_empty]
  show (⟨a.text ++ "", a.mappings ++ #[].map (Mapping.shift a.size)⟩ : MappedText) = a
  rw [String.append_empty, hmappings]

/-- Text that comes from nowhere is appended. -/
theorem push_eq_append (text : String) (m : MappedText) :
    m.push text = m.append (({} : MappedText).push text) := by
  have hempty : ({} : MappedText).push text = ⟨text, #[]⟩ := by
    show (⟨"" ++ text, #[]⟩ : MappedText) = _
    rw [String.empty_append]
  rw [hempty, push, append, Array.map_empty, Array.append_empty]

/-- Copied text is appended. -/
theorem pushMapped_eq_append (text : String) (origin : Origin) (m : MappedText) :
    m.pushMapped text origin = m.append (({} : MappedText).pushMapped text origin) := by
  have hempty : ({} : MappedText).pushMapped text origin
      = ⟨text, #[⟨⟨0, text.utf8ByteSize⟩, origin⟩]⟩ := by
    show (⟨"" ++ text, #[⟨⟨0, 0 + text.utf8ByteSize⟩, origin⟩]⟩ : MappedText) = _
    rw [String.empty_append, Nat.zero_add]
  rw [hempty, pushMapped, append, List.map_toArray]
  simp only [List.map_cons, List.map_nil, Mapping.shift, Span.shift, Nat.zero_add,
    Nat.add_comm text.utf8ByteSize]
  rfl

end MappedText

/-! ## Actions -/

/-- **What can be done to put a text together.** A text that is appended is put together itself; to
double a text is to append a copy of the text so far. -/
inductive TextAction where
  | push (text : String)
  | pushLine (text : String)
  | newline
  | pushMapped (text : String) (origin : Origin)
  | pushToken (token : Token) (fileId : Nat)
  | append (other : List TextAction)
  | double

namespace TextAction

open MappedText (ofPieces append_ofPieces)

mutual

/-- Performs an action. -/
def perform : TextAction → MappedText → MappedText
  | .push text, m => m.push text
  | .pushLine text, m => m.pushLine text
  | .newline, m => m.newline
  | .pushMapped text origin, m => m.pushMapped text origin
  | .pushToken token fileId, m => m.pushToken token fileId
  | .append other, m => m.append (run other {})
  | .double, m => m.append m

/-- **Performs actions one after another.** -/
def run : List TextAction → MappedText → MappedText
  | [], m => m
  | a :: as, m => run as (perform a m)

end

mutual

/-- The pieces that an action makes of those of a text. -/
def pieces : TextAction → List Piece → List Piece
  | .push text, ps => ps ++ [.fixed text]
  | .pushLine text, ps => ps ++ [.fixed (text ++ "\n")]
  | .newline, ps => ps ++ [.fixed "\n"]
  | .pushMapped text origin, ps => ps ++ [.value text origin]
  | .pushToken token fileId, ps => ps ++ [.value token.text ⟨fileId, token.span⟩]
  | .append other, ps => ps ++ piecesOf other []
  | .double, ps => ps ++ ps

/-- The pieces that actions make of those of a text. -/
def piecesOf : List TextAction → List Piece → List Piece
  | [], ps => ps
  | a :: as, ps => piecesOf as (pieces a ps)

end

mutual

/-- The copies of a text after an action, if those before it are given. -/
def copies : TextAction → List (String × Origin) → List (String × Origin)
  | .pushMapped text origin, cs => cs ++ [(text, origin)]
  | .pushToken token fileId, cs => cs ++ [(token.text, ⟨fileId, token.span⟩)]
  | .append other, cs => cs ++ copiesOf other []
  | .double, cs => cs ++ cs
  | .push _, cs | .pushLine _, cs | .newline, cs => cs

/-- **The copies of a text after actions**, what was copied and where from. -/
def copiesOf : List TextAction → List (String × Origin) → List (String × Origin)
  | [], cs => cs
  | a :: as, cs => copiesOf as (copies a cs)

end

mutual

/-- An action does with the text what it does with its pieces. -/
theorem perform_ofPieces : ∀ (a : TextAction) (ps : List Piece),
    a.perform (ofPieces ps) = ofPieces (a.pieces ps)
  | .push text, ps => MappedText.push_ofPieces text ps
  | .pushLine text, ps => MappedText.pushLine_ofPieces text ps
  | .newline, ps => MappedText.newline_ofPieces ps
  | .pushMapped text origin, ps => MappedText.pushMapped_ofPieces (p := .value text origin) rfl ps
  | .pushToken token fileId, ps =>
    MappedText.pushMapped_ofPieces (p := .value token.text ⟨fileId, token.span⟩) rfl ps
  | .append other, ps => by
    have hother : run other {} = ofPieces (piecesOf other []) := run_ofPieces other []
    rw [perform, pieces, hother, append_ofPieces]
  | .double, ps => append_ofPieces ps ps

/-- **Actions do with the text what they do with its pieces.** -/
theorem run_ofPieces : ∀ (as : List TextAction) (ps : List Piece),
    run as (ofPieces ps) = ofPieces (piecesOf as ps)
  | [], _ => rfl
  | a :: as, ps => by rw [run, piecesOf, perform_ofPieces a ps, run_ofPieces as]

end

end TextAction

namespace Piece

/-- What a piece copies and where from, if it was copied. -/
def copy? (p : Piece) : Option (String × Origin) := p.origin?.map fun origin => (p.text, origin)

/-- **The mappings of pieces are their copies**, each over its own text. -/
theorem map_slice?_mappingsFrom (front ps : List Piece) :
    (mappingsFrom (widthOf front) ps).map
        (fun m => (Text.slice? m.generated (textOf (front ++ ps)), m.origin))
      = (ps.filterMap copy?).map fun c => (some c.1, c.2) := by
  induction ps generalizing front with
  | nil => rfl
  | cons p ps ih =>
    have hnext := ih (front ++ [p])
    rw [widthOf_append, widthOf, widthOf, Nat.add_zero, List.append_assoc,
      List.singleton_append] at hnext
    rw [mappingsFrom, List.map_append, hnext, List.filterMap_cons, copy?, mapping?]
    cases horigin : p.origin? with
    | none => rfl
    | some origin =>
      show [(Text.slice? ⟨widthOf front, widthOf front + p.width⟩ (textOf (front ++ p :: ps)),
        origin)] ++ _ = _
      rw [slice?_textOf]
      rfl

end Piece

/-- **A text that is faithful to copies**: its mappings are the copies in their order, each over its
own text, and stand one behind another inside the text, from character to character. -/
structure MappedText.Faithful (copies : List (String × Origin)) (m : MappedText) : Prop where
  consecutive : Mapping.Consecutive m.mappings.toList
  stop_le_size : ∀ mapping ∈ m.mappings.toList, mapping.generated.stop ≤ m.size
  isBoundary : ∀ mapping ∈ m.mappings.toList, Text.IsBoundary m.text mapping.generated.start
    ∧ Text.IsBoundary m.text mapping.generated.stop
  slices : (m.mappings.toList.map fun mapping =>
      (Text.slice? mapping.generated m.text, mapping.origin)) = copies.map fun c => (some c.1, c.2)

/-- Pieces make a text that is faithful to their copies. -/
theorem MappedText.faithful_ofPieces (ps : List Piece) :
    (ofPieces ps).Faithful (ps.filterMap Piece.copy?) := by
  have hbounds : ∀ mapping ∈ Piece.mappingsFrom 0 ps, _ :=
    fun _ h => Piece.bounds_of_mem_mappingsFrom h
  have hslices := Piece.map_slice?_mappingsFrom [] ps
  refine ⟨⟨fun m hm => (hbounds m hm).2.1, Mapping.pairwise_mappingsFrom 0 ps⟩, ?_, ?_, hslices⟩
  · intro mapping hmapping
    rw [size_ofPieces, ← Nat.zero_add (Piece.widthOf ps)]
    exact (hbounds mapping hmapping).2.2
  · intro mapping hmapping
    refine (Text.exists_slice?_iff (hbounds mapping hmapping).2.1).mp ?_
    obtain ⟨front, p, back, rfl, hp⟩ := Piece.mem_mappingsFrom.mp hmapping
    obtain ⟨-, hgenerated⟩ := Piece.mapping?_eq_some_iff.mp hp
    rw [hgenerated, Nat.zero_add]
    exact ⟨p.text, Piece.slice?_textOf front p back⟩

namespace TextAction

open MappedText (ofPieces push_eq_append pushMapped_eq_append append_assoc empty_append
  append_empty)
open Piece (copy?)

mutual

/-- An action makes the copies of its pieces. -/
theorem filterMap_copy?_pieces : ∀ (a : TextAction) (ps : List Piece),
    (a.pieces ps).filterMap copy? = a.copies (ps.filterMap copy?)
  | .push _, _ | .pushLine _, _ | .newline, _ => by
    rw [pieces, copies, List.filterMap_append]
    exact List.append_nil _
  | .pushMapped _ _, _ | .pushToken _ _, _ => by
    rw [pieces, copies, List.filterMap_append]
    rfl
  | .append other, ps => by
    have hother := filterMap_copy?_piecesOf other []
    rw [pieces, copies, List.filterMap_append, hother]
    rfl
  | .double, ps => by rw [pieces, copies, List.filterMap_append]

/-- **Actions make the copies of their pieces.** -/
theorem filterMap_copy?_piecesOf : ∀ (as : List TextAction) (ps : List Piece),
    (piecesOf as ps).filterMap copy? = copiesOf as (ps.filterMap copy?)
  | [], _ => rfl
  | a :: as, ps => by
    rw [piecesOf, copiesOf, filterMap_copy?_piecesOf as, filterMap_copy?_pieces a]

end

/-- **What actions put together is faithful to the copies that they make.** -/
theorem faithful_run (as : List TextAction) : (run as {}).Faithful (copiesOf as []) := by
  have hpieces : run as {} = ofPieces (piecesOf as []) := run_ofPieces as []
  have hcopies := filterMap_copy?_piecesOf as []
  rw [List.filterMap_nil] at hcopies
  rw [hpieces, ← hcopies]
  exact MappedText.faithful_ofPieces _

/-! ## Actions performed elsewhere -/

/-- Whether an action adds the text so far once more. -/
def doubles : TextAction → Bool
  | .double => true
  | _ => false

/-- **Every other action appends something**, the same to every text. -/
theorem perform_eq_append {a : TextAction} (h : a.doubles = false) (m : MappedText) :
    a.perform m = m.append (a.perform {}) := by
  cases a with
  | push text => exact push_eq_append text m
  | pushLine text =>
    show (m.push text).push "\n" = m.append ((MappedText.push text {}).push "\n")
    rw [push_eq_append "\n" (m.push text), push_eq_append text m, append_assoc,
      ← push_eq_append "\n"]
  | newline => exact push_eq_append "\n" m
  | pushMapped text origin => exact pushMapped_eq_append text origin m
  | pushToken token fileId => exact pushMapped_eq_append token.text ⟨fileId, token.span⟩ m
  | append other => rw [perform, perform, empty_append]
  | double => cases h

/-- **Actions none of which doubles can be performed elsewhere**, and the result be appended. -/
theorem run_eq_append {as : List TextAction} (h : ∀ a ∈ as, a.doubles = false) (m : MappedText) :
    run as m = m.append (run as {}) := by
  induction as generalizing m with
  | nil => exact (append_empty m).symm
  | cons a as ih =>
    obtain ⟨ha, has⟩ := List.forall_mem_cons.mp h
    rw [run, run, ih has (a.perform m), ih has (a.perform {}), perform_eq_append ha m, append_assoc]

/-- **What doubling does to a length**, or to whatever else is added up when texts are appended: what
was there before counts twice for each time it is doubled. -/
theorem weight_run {weight : MappedText → Nat}
    (hweight : ∀ a b, weight (a.append b) = weight a + weight b) (as : List TextAction)
    (m : MappedText) :
    weight (run as m) = 2 ^ as.countP doubles * weight m + weight (run as {}) := by
  have hempty : weight {} = 0 := by
    have h := hweight {} {}
    rw [empty_append] at h
    omega
  induction as generalizing m with
  | nil =>
    rw [run, run, hempty, List.countP_nil]
    omega
  | cons a as ih =>
    rw [run, run, ih (a.perform m), ih (a.perform {})]
    cases ha : a.doubles with
    | false =>
      rw [perform_eq_append ha m, hweight, List.countP_cons_of_neg (Bool.eq_false_iff.mp ha),
        Nat.mul_add, Nat.add_assoc]
    | true =>
      cases a with
      | double =>
        rw [perform, perform, hweight, hweight, hempty, List.countP_cons_of_pos ha, Nat.pow_succ,
          Nat.add_zero, Nat.mul_zero, Nat.zero_add, ← Nat.two_mul, Nat.mul_assoc]
      | _ => cases ha

/-- **When performing actions elsewhere makes no difference**: if none of them doubles, and otherwise
only if there was nothing to double. -/
theorem append_run_eq_iff (as : List TextAction) (m : MappedText) :
    m.append (run as {}) = run as m ↔ m = {} ∨ ∀ a ∈ as, a.doubles = false := by
  constructor
  · intro heq
    by_cases hnone : ∀ a ∈ as, a.doubles = false
    · exact Or.inr hnone
    · have hcount : as.countP doubles ≠ 0 := fun h => hnone fun a ha =>
        Bool.eq_false_iff.mpr (List.countP_eq_zero.mp h a ha)
      have hzero : ∀ weight : MappedText → Nat,
          (∀ a b, weight (a.append b) = weight a + weight b) → weight m = 0 := by
        intro weight hweight
        have hsum := congrArg weight heq
        rw [hweight, weight_run hweight as m] at hsum
        have htwice : 2 * weight m ≤ 2 ^ as.countP doubles * weight m :=
          Nat.mul_le_mul_right _ (Nat.le_self_pow hcount 2)
        omega
      have htext : m.text.utf8ByteSize = 0 := hzero MappedText.size MappedText.size_append
      have hmappings : m.mappings.size = 0 := by
        refine hzero (fun m => m.mappings.size) fun a b => ?_
        rw [MappedText.append, Array.size_append, Array.size_map]
      obtain ⟨text, mappings⟩ := m
      rw [String.utf8ByteSize_eq_zero_iff] at htext
      rw [Array.size_eq_zero_iff] at hmappings
      exact Or.inl (htext ▸ hmappings ▸ rfl)
  · rintro (rfl | hnone)
    · exact empty_append _
    · exact (run_eq_append hnone m).symm

/-- **Texts put together by actions are a monoid that keeps track of its copies.** What any actions
put together, with empty copies and texts that are put together themselves or doubled, has the
copies that the actions make for its mappings: each of them stands over its own text, inside the
whole text and from character to character, and ends before the next one starts. Appending is
associative, and the empty text is neutral on both sides. Performing the actions elsewhere and
appending the result gives what performing them on a text gives, with all its mappings, for every
text if no action doubles the text so far, and otherwise for the empty text only. -/
theorem faithful_run_and_append (as : List TextAction) :
    (run as {}).Faithful (copiesOf as [])
      ∧ (∀ a b c : MappedText, (a.append b).append c = a.append (b.append c))
      ∧ (∀ a : MappedText, a.append {} = a ∧ ({} : MappedText).append a = a)
      ∧ ∀ m : MappedText, m.append (run as {}) = run as m
          ↔ m = {} ∨ ∀ a ∈ as, a.doubles = false :=
  ⟨faithful_run as, append_assoc, fun a => ⟨append_empty a, empty_append a⟩, append_run_eq_iff as⟩

/-- Copied text, and a text that is doubled elsewhere and appended. -/
def doubledElsewhere : List TextAction :=
  [.pushMapped "é" ⟨1, ⟨4, 6⟩⟩, .append [.pushToken ⟨"b", ⟨7, 8⟩⟩ 1, .newline, .double]]

/-- Both copies of the token have their mapping, and the actions append the same to every text. -/
theorem faithful_run_and_append_doubledElsewhere :
    (run doubledElsewhere {}).text = "éb\nb\n"
      ∧ (run doubledElsewhere {}).mappings.toList.map Mapping.generated = [⟨0, 2⟩, ⟨2, 3⟩, ⟨4, 5⟩]
      ∧ ((run doubledElsewhere {}).mappings.toList.map fun mapping =>
          (Text.slice? mapping.generated (run doubledElsewhere {}).text, mapping.origin))
        = [(some "é", ⟨1, ⟨4, 6⟩⟩), (some "b", ⟨1, ⟨7, 8⟩⟩), (some "b", ⟨1, ⟨7, 8⟩⟩)]
      ∧ (∀ a ∈ doubledElsewhere, a.doubles = false)
      ∧ ∀ m : MappedText, m.append (run doubledElsewhere {}) = run doubledElsewhere m := by
  obtain ⟨hfaithful, -, -, happend⟩ := faithful_run_and_append doubledElsewhere
  have hnone : ∀ a ∈ doubledElsewhere, a.doubles = false := by decide
  exact ⟨by decide, by decide +kernel, hfaithful.slices, hnone,
    fun m => (happend m).mpr (Or.inr hnone)⟩

/-- **Doubling in place is not doubling elsewhere**: added to a text, what was doubled elsewhere
leaves the text in front of it alone, while doubling in place repeats it as well. -/
theorem append_run_doubled :
    let as := [TextAction.push "x", .double]
    let m : MappedText := ({} : MappedText).push "b"
    (m.append (run as {})).text = "bxx" ∧ (run as m).text = "bxbx" := by
  decide

end TextAction

end TextTemplate
