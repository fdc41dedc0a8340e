import ClassAtlas.Cli.Run
import ClassAtlas.Proofs.Attempts
import ClassAtlas.Proofs.Files.Writing
import ClassAtlas.Proofs.Json
import ClassAtlas.Proofs.Text.Utf8
import Mathlib.Data.List.Basic

/-!
# What a run puts out

The text of a report is a document, and no two reports have the same text. A
run that succeeds puts the text of its report out and nothing else, on the
standard output or in the file that was asked for.
-/

namespace ClassAtlas

/-! ## Values of documents -/

namespace Json

theorem text_injective : Function.Injective text :=
  fun _ _ h => Option.some.inj (string.inj h)

theorem nat_injective : Function.Injective nat := by
  intro m n h
  have hspelling : m.repr = n.repr := number.inj h
  rw [Nat.repr_eq_ofList_toDigits, Nat.repr_eq_ofList_toDigits, String.ofList_inj] at hspelling
  have hvalue := congrArg (Nat.ofDigitChars 10 · 0) hspelling
  simpa only [Nat.ofDigitChars_ten_toDigits] using hvalue

/-- A text, or null for none. -/
theorem textOrNull_injective :
    Function.Injective fun value : Option String => (value.map text).getD .null := by
  intro x y h
  cases x <;> cases y
  · rfl
  · cases h
  · cases h
  · exact congrArg some (text_injective h)

theorem written_textOrNull (value : Option String) : ((value.map text).getD .null).Written := by
  cases value with
  | none => exact .null
  | some s => exact .text s

theorem written_map {α : Type} {f : α → Json} (h : ∀ a, (f a).Written) (l : List α) :
    (array (l.map f)).Written :=
  .array (List.forall_mem_map.mpr fun a _ => h a)

theorem array_map_injective {α : Type} {f : α → Json} (h : Function.Injective f) :
    Function.Injective fun l : List α => array (l.map f) :=
  fun _ _ heq => List.map_injective_iff.mpr h (array.inj heq)

end Json

theorem Modifier.reportName_injective : Function.Injective reportName := by
  have hall : ∀ m ∈ all, ∀ n ∈ all, m.reportName = n.reportName → m = n := by decide +kernel
  exact fun m n => hall m (mem_all m) n (mem_all n)

theorem Role.name_injective : Function.Injective Role.name := by
  intro a b h
  cases a <;> cases b <;> first | rfl | exact absurd h (by decide)

theorem Language.text_injective : Function.Injective text := by
  rintro ⟨m⟩ ⟨n⟩ h
  have hversion : toString m = toString n := (String.append_right_inj _).mp h
  exact congrArg Language.mk (Json.nat_injective (congrArg Json.number hversion))

namespace Cli

/-! ## Reports -/

theorem ClassReport.written (c : ClassReport) : c.json.Written := by
  refine .record ?_
  simp only [List.forall_mem_cons, List.not_mem_nil, false_implies, implies_true, and_true]
  exact ⟨.text _, Json.written_textOrNull _, Json.written_map Json.Written.text _,
    Json.written_map (fun m : Modifier => .text m.reportName) _, .nat _, .nat _, .text _, .text _⟩

theorem Report.written (r : Report) : r.json.Written := by
  refine .record ?_
  simp only [List.forall_mem_cons, List.not_mem_nil, false_implies, implies_true, and_true]
  refine ⟨.record ?_, .text _, Json.written_map Json.Written.text _,
    Json.written_map ClassReport.written _⟩
  simp only [List.forall_mem_cons, List.not_mem_nil, false_implies, implies_true, and_true]
  exact ⟨.text _, .text _⟩

theorem ClassReport.json_injective : Function.Injective json := by
  rintro ⟨name, superclass, interfaces, modifiers, fields, methods, location, role⟩
    ⟨name', superclass', interfaces', modifiers', fields', methods', location', role'⟩ h
  simp only [json, Json.record, List.map_cons, List.map_nil, Json.object.injEq, List.cons.injEq,
    Prod.mk.injEq, true_and, and_true] at h
  obtain ⟨hname, hsuperclass, hinterfaces, hmodifiers, hfields, hmethods, hlocation, hrole⟩ := h
  obtain rfl := Json.text_injective hname
  obtain rfl := Json.textOrNull_injective hsuperclass
  obtain rfl := Json.array_map_injective Json.text_injective hinterfaces
  obtain rfl := Json.array_map_injective
    (Json.text_injective.comp Modifier.reportName_injective) hmodifiers
  obtain rfl := Json.nat_injective hfields
  obtain rfl := Json.nat_injective hmethods
  obtain rfl := Json.text_injective hlocation
  obtain rfl := Role.name_injective (Json.text_injective hrole)
  rfl

theorem Report.json_injective : Function.Injective json := by
  rintro ⟨language, locations, classes⟩ ⟨language', locations', classes'⟩ h
  simp only [json, Json.record, List.map_cons, List.map_nil, Json.object.injEq, List.cons.injEq,
    Prod.mk.injEq, true_and, and_true] at h
  obtain ⟨hlanguage, hlocations, hclasses⟩ := h
  obtain rfl := Language.text_injective (Json.text_injective hlanguage)
  obtain rfl := Json.array_map_injective Json.text_injective hlocations
  obtain rfl := Json.array_map_injective ClassReport.json_injective hclasses
  rfl

theorem Report.parse?_text (r : Report) : Json.parse? r.text = some r.json :=
  r.written.parse?_pretty

theorem Report.text_injective : Function.Injective text := by
  intro r r' h
  apply Report.json_injective
  rw [← Option.some_inj, ← r.parse?_text, h, r'.parse?_text]

/-! ## Outcomes -/

/-- What was put out: the content of the file that was asked for, or else the standard output. -/
def Outcome.output? (o : Outcome) (path : Option Path) : Option Bytes :=
  match path.filter (!isStandardOutput ·) with
  | none => some (Text.Utf8.encode o.standardOutput)
  | some path => o.files.read? path

theorem output?_of_write {fs : FileSystem} {path : Option Path} {text : String} {o : Outcome}
    (h : write fs path text = .ok o) : o.output? path = some (Text.Utf8.encode text) := by
  unfold write at h
  split at h
  · cases h
    rfl
  · next path =>
    split at h
    · next hstandard =>
      cases h
      simp [Outcome.output?, Option.filter, hstandard]
    · next hfile =>
      split at h
      · next files hwrite =>
        cases h
        simp [Outcome.output?, Option.filter, hfile, FileSystem.read?_of_write? hwrite]
      · cases h

/-- From what a successful run puts out, one can tell its report. -/
theorem report_eq_ok_iff_output [Formats] {fs : FileSystem} {a : Arguments} {o : Outcome}
    (h : run fs a = .ok o) (r : Report) :
    report fs a = .ok r ↔ o.output? a.output = some (Text.Utf8.encode r.text) := by
  obtain ⟨made, hmade, hwrite⟩ := bind_eq_ok_iff.mp h
  rw [hmade, output?_of_write hwrite, Except.ok.injEq, Option.some_inj,
    Text.Utf8.encode_injective.eq_iff, Report.text_injective.eq_iff]

end Cli

end ClassAtlas
