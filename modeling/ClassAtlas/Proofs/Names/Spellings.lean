import ClassAtlas.Proofs.JavaType.Dimensions
import ClassAtlas.Proofs.Location.ClassPaths
import ClassAtlas.Proofs.Names.Grammar

/-!
# One key for all spellings

Whatever text a class name is read from, its simple name holds no dot. So the
dotted name says where the package ends, and every other spelling that keeps
the segments apart leads back to the same key.
-/

namespace ClassAtlas

/-- The class that a type is made of. -/
def JavaType.className? (t : JavaType) : Option ClassName :=
  match t.base? with
  | some (.named c) => some c
  | _ => none

/-- The names that texts are read as, in any spelling. -/
inductive ClassName.Spelled [Formats] : ClassName → Prop where
  | dotted (text : String) : Spelled (ofDotted text)
  | internal (text : String) : Spelled (ofInternal text)
  | inPackage (package simple : String) : Spelled (inPackage package simple)
  | moduleInfo (module : String) : Spelled (moduleInfo module)
  | path {p : Path} {c : ClassName} (h : ofPath? p = some c) : Spelled c
  | field {text : String} {type : JavaType} {c : ClassName}
      (h : Descriptor.readField text = .ok type) (hc : type.className? = some c) : Spelled c
  | method {text : String} {params : List JavaType} {result type : JavaType} {c : ClassName}
      (h : Descriptor.readMethod text = .ok (params, result)) (htype : type ∈ result :: params)
      (hc : type.className? = some c) : Spelled c

/-! ## Names in descriptors -/

/-- If the type is made of a class, the name of the class was an internal one. -/
theorem TypeDescriptor.exists_ofInternal {spelled : TypeDescriptor} {type : JavaType}
    (h : spelled.type? = some type) {c : ClassName} (hc : type.className? = some c) :
    ∃ text, c = ClassName.ofInternal text := by
  induction spelled generalizing type with
  | primitive p =>
    cases h
    cases hc
  | void =>
    cases h
    cases hc
  | object internal =>
    rw [type?] at h
    split at h
    · cases h
    · cases h
      exact ⟨internal, (Option.some.inj hc).symm⟩
  | array element n ih =>
    obtain ⟨inner, hinner, h⟩ := Option.bind_eq_some_iff.mp h
    obtain ⟨a, ha, h⟩ := Option.bind_eq_some_iff.mp h
    cases h
    have hof : ArrayType.of inner n.toUInt32 = .ok a := toOption_eq_some_iff.mp ha
    obtain ⟨-, hbase, -⟩ := ArrayType.of_eq_ok_iff.mp hof
    -- An array is made of what its elements are made of.
    have hclass : inner.className? = (JavaType.array a).className? := by
      rw [JavaType.className?, JavaType.className?, hbase]
      rfl
    exact ih hinner (hclass.trans hc)

/-! ## Paths without special segments -/

namespace Path

theorem Component.ofSegment_of_isPlain {cs : List Char} (h : IsPlain (String.ofList cs)) :
    ofSegment cs = some (.name (String.ofList cs)) := by
  unfold ofSegment
  split
  · exact absurd rfl h.ne_empty
  · exact absurd rfl h.ne_here
  · exact absurd rfl h.ne_up
  · rfl

/-- Where no segment is special, every segment is a name. -/
theorem components_of_isPlain {p : Path}
    (h : ∀ segment ∈ Text.segments '/' p.text, IsPlain segment) :
    p.components = (Text.segments '/' p.text).map .name := by
  have hrelative : p.isAbsolute = false :=
    isAbsolute_eq_false fun hempty => (h "" hempty).ne_empty rfl
  have hplain : ∀ cs ∈ Text.split '/' p.text.toList, IsPlain (String.ofList cs) := fun cs hcs =>
    h _ (List.mem_map_of_mem hcs)
  have hhead : (Text.split '/' p.text.toList).head? ≠ some ['.'] := fun hdot =>
    (hplain _ (List.mem_of_head? hdot)).ne_here rfl
  have hnames : (Text.split '/' p.text.toList).filterMap Component.ofSegment =
      (Text.split '/' p.text.toList).map fun cs => .name (String.ofList cs) := by
    rw [← List.filterMap_eq_map]
    exact List.filterMap_congr fun cs hcs => Component.ofSegment_of_isPlain (hplain cs hcs)
  simp only [components, hrelative, hnames, if_neg hhead]
  rw [Text.segments, List.map_map]
  rfl

end Path

namespace ClassName

variable {c : ClassName}

/-! ## Dotted names -/

theorem ofDotted_cases (text : String) :
    '.' ∉ text.toList ∧ ofDotted text = ⟨"", text⟩ ∨
      ∃ package simple : List Char, text.toList = package ++ '.' :: simple ∧ '.' ∉ simple ∧
        ofDotted text = ⟨String.ofList package, String.ofList simple⟩ := by
  unfold ofDotted
  cases hsplit : Text.splitLast '.' text.toList with
  | none => exact .inl ⟨Text.splitLast_eq_none.mp hsplit, rfl⟩
  | some parts =>
    obtain ⟨package, simple⟩ := parts
    obtain ⟨htext, hsimple⟩ := Text.splitLast_eq_some.mp hsplit
    exact .inr ⟨package, simple, htext, hsimple, rfl⟩

theorem no_dot_ofDotted (text : String) : '.' ∉ (ofDotted text).simple.toList := by
  obtain ⟨hdot, heq⟩ | ⟨package, simple, -, hdot, heq⟩ := ofDotted_cases text
  · rwa [heq]
  · rwa [heq, String.toList_ofList]

/-- A dotted name is kept as it was read, or loses the dot it starts with. -/
theorem dotted_ofDotted_suffix (text : String) :
    (ofDotted text).dotted.toList <:+ text.toList := by
  obtain ⟨-, heq⟩ | ⟨package, simple, htext, -, heq⟩ := ofDotted_cases text
  · rw [heq]
    exact List.suffix_refl _
  · rw [heq, htext, dotted]
    cases package with
    | nil => simp
    | cons first package => simp

theorem no_slash_ofInternal (text : String) : '/' ∉ (ofInternal text).dotted.toList := by
  intro h
  have hexchanged := (dotted_ofDotted_suffix _).subset h
  rw [Text.exchange, String.toList_ofList, List.mem_map] at hexchanged
  obtain ⟨x, -, hx⟩ := hexchanged
  split at hx
  · cases hx
  · next hslash => exact hslash hx

theorem isModuleInfo_moduleInfo (module : String) : (moduleInfo module).isModuleInfo = true := by
  unfold moduleInfo inPackage
  split
  · decide
  · have hsplit : Text.splitLast '.' (module ++ "." ++ moduleInfoName).toList =
        some (module.toList, moduleInfoName.toList) :=
      Text.splitLast_eq_some.mpr ⟨by simp, by decide⟩
    rw [ofDotted, hsplit]
    simp [isModuleInfo]

theorem ofDotted_dotted (h : '.' ∉ c.simple.toList) : ofDotted c.dotted = c := by
  obtain ⟨package, simple⟩ := c
  by_cases hpackage : package = ""
  · rw [dotted, if_pos hpackage, ofDotted, Text.splitLast_eq_none.mpr h, hpackage]
  · have hsplit : Text.splitLast '.' (package ++ "." ++ simple).toList =
        some (package.toList, simple.toList) :=
      Text.splitLast_eq_some.mpr ⟨by simp, h⟩
    rw [dotted, if_neg hpackage, ofDotted, hsplit]
    simp

/-- A dotted name is read and written as it is, unless a dot is its first character and the only
one. -/
theorem dotted_ofDotted_iff (text : String) :
    (ofDotted text).dotted = text ↔ ¬ ∃ name : String, '.' ∉ name.toList ∧ text = "." ++ name := by
  obtain ⟨hdot, heq⟩ | ⟨package, simple, htext, hdot, heq⟩ := ofDotted_cases text
  · rw [heq]
    refine iff_of_true rfl ?_
    rintro ⟨name, -, rfl⟩
    simp at hdot
  · rw [heq, dotted]
    cases package with
    | nil =>
      have hlone : text = "." ++ String.ofList simple := by
        apply String.toList_inj.mp
        simp [htext]
      refine iff_of_false ?_ (not_not_intro ⟨String.ofList simple, by simpa using hdot, hlone⟩)
      intro h
      have hlength := congrArg String.length h
      simp [hlone] at hlength
    | cons first package =>
      refine iff_of_true ?_ ?_
      · apply String.toList_inj.mp
        simp [htext]
      · rintro ⟨name, hname, rfl⟩
        have hrest : name.toList = package ++ '.' :: simple := by
          rw [String.toList_append] at htext
          exact (List.cons.inj htext).2
        simp [hrest] at hname

/-- Where the names of folders are neither empty nor dotted, they are those of the package. -/
theorem folders_eq_of_ofDotted {names : List String}
    (hnames : ∀ name ∈ names, name ≠ "" ∧ '.' ∉ name.toList) (hdot : '.' ∉ c.simple.toList)
    (h : ofDotted (Text.joined '.' (names ++ [c.simple])) = c) : c.folders = names := by
  have hsegments : Text.segments '.' (Text.joined '.' (names ++ [c.simple])) =
      names ++ [c.simple] := by
    apply Text.segments_joined
    · intro name hname
      rcases List.mem_append.mp hname with hname | hname
      · exact (hnames name hname).2
      · rwa [List.mem_singleton.mp hname]
    · simp
  have hkept : (ofDotted (Text.joined '.' (names ++ [c.simple]))).dotted =
      Text.joined '.' (names ++ [c.simple]) := by
    rw [dotted_ofDotted_iff]
    rintro ⟨name, hname, hlone⟩
    have hempty : Text.segments '.' ("." ++ name) = ["", name] := by
      simp [Text.segments, Text.split_of_not_mem hname]
    rw [hlone, hempty, ← List.singleton_append] at hsegments
    have hlast : [""] = names := List.append_inj_left' hsegments rfl
    exact (hnames "" (by simp [← hlast])).1 rfl
  rw [h] at hkept
  rw [← hkept, segments_dotted hdot] at hsegments
  exact List.append_cancel_right hsegments

theorem inPackage_eq_ofDotted (package simple : String) :
    inPackage package simple = ofDotted (dotted ⟨package, simple⟩) := by
  unfold inPackage dotted
  split <;> rfl

/-- Whatever it was read from, a simple name is simple. -/
theorem Spelled.no_dot [Formats] (h : c.Spelled) : '.' ∉ c.simple.toList := by
  have hinPackage (package simple : String) :
      '.' ∉ (ClassName.inPackage package simple).simple.toList := by
    rw [inPackage_eq_ofDotted]
    exact no_dot_ofDotted _
  have hdescriptor (h : ∃ text, c = ofInternal text) : '.' ∉ c.simple.toList := by
    obtain ⟨text, rfl⟩ := h
    exact no_dot_ofDotted _
  cases h with
  | dotted text => exact no_dot_ofDotted text
  | internal text => exact no_dot_ofDotted _
  | inPackage package simple => exact hinPackage package simple
  | moduleInfo module => exact hinPackage module moduleInfoName
  | path h =>
    unfold ofPath? at h
    split at h
    · obtain ⟨stem, -, rfl⟩ := Option.map_eq_some_iff.mp h
      exact hinPackage _ stem
    · cases h
  | field h hc =>
    obtain ⟨spelled, -, hvalue⟩ := Descriptor.readField_eq_ok_iff.mp h
    obtain ⟨htype, -⟩ := Descriptor.valueType?_eq_some_iff.mp hvalue
    exact hdescriptor (TypeDescriptor.exists_ofInternal htype hc)
  | method h hmem hc =>
    obtain ⟨spelled, -, hparams, hresult⟩ := Descriptor.readMethod_eq_ok_iff.mp h
    rcases List.mem_cons.mp hmem with rfl | hmem
    · exact hdescriptor (TypeDescriptor.exists_ofInternal hresult hc)
    · obtain ⟨one, -, hvalue⟩ := exists_of_mem_mapM_eq_some hparams _ hmem
      obtain ⟨htype, -⟩ := Descriptor.valueType?_eq_some_iff.mp hvalue
      exact hdescriptor (TypeDescriptor.exists_ofInternal htype hc)

/-! ## Internal names -/

theorem ofInternal_internal (h : '/' ∉ c.dotted.toList) :
    ofInternal c.internal = ofDotted c.dotted := by
  have hback : Text.exchange '/' '.' c.internal = c.dotted := by
    unfold internal Text.exchange
    apply String.toList_inj.mp
    rw [String.toList_ofList, String.toList_ofList, List.map_map]
    refine (List.map_congr_left fun x hx => ?_).trans (List.map_id _)
    have hslash : x ≠ '/' := fun heq => h (heq ▸ hx)
    by_cases hdot : x = '.' <;> simp [hdot, hslash]
  rw [ofInternal, hback]

/-! ## Paths -/

/-- The segments before the last one are the package. -/
theorem inPackage_joined {front : List String} (last : String) (h : "" ∉ front) :
    inPackage (Text.joined '.' front) last = ofDotted (Text.joined '.' (front ++ [last])) := by
  cases front with
  | nil =>
    have hnone : Text.joined '.' [] = "" := rfl
    have hlast : Text.joined '.' [last] = last := String.ofList_toList
    rw [hnone, inPackage, if_pos rfl, List.nil_append, hlast]
  | cons first rest =>
    have hwhole : Text.joined '.' (first :: rest ++ [last]) =
        Text.joined '.' (first :: rest) ++ "." ++ last := by
      apply String.toList_inj.mp
      simpa [Text.joined] using Text.join_concat (by simp : (first :: rest).map String.toList ≠ [])
        last.toList
    have hpackage : Text.joined '.' (first :: rest) ≠ "" := by
      intro hempty
      have hfirst : first.toList = [] := by
        cases rest <;> simpa [Text.joined, Text.join] using congrArg String.toList hempty
      exact h (String.toList_eq_nil_iff.mp hfirst ▸ List.mem_cons_self)
    rw [hwhole, inPackage, if_neg hpackage]

theorem splitExtension_classFile {stem : List Char} (h : stem ≠ []) :
    Path.splitExtension (String.ofList (stem ++ classSuffix.toList)) =
      (String.ofList stem, some "class") := by
  obtain ⟨first, rest, rfl⟩ := List.exists_cons_of_ne_nil h
  have hsplit : Text.splitLast '.' (first :: rest ++ classSuffix.toList) =
      some (first :: rest, "class".toList) :=
    Text.splitLast_eq_some.mpr ⟨rfl, by decide⟩
  rw [Path.splitExtension, String.toList_ofList, hsplit]
  rfl

/-- The components of a class's path are the segments of its name, the last one with its ending. -/
theorem components_file {front : List (List Char)} {last : List Char}
    (hslash : '/' ∉ c.dotted.toList) (hc : "" ∉ Text.segments '.' c.dotted)
    (hsplit : Text.split '.' c.dotted.toList = front ++ [last]) :
    c.file.components = (front.map String.ofList).map Path.Component.name ++
      [.name (String.ofList (last ++ classSuffix.toList))] := by
  have hplain : ∀ segment ∈ Text.segments '/' c.file.text, IsPlain segment := by
    apply isPlain_of_mem_file
    intro segment hsegment
    refine ⟨fun hempty => hc (hempty ▸ hsegment), ?_⟩
    obtain ⟨cs, hcs, rfl⟩ := List.mem_map.mp hsegment
    rw [String.toList_ofList]
    exact fun hmem => hslash (Text.mem_of_mem_split hcs hmem)
  rw [Path.components_of_isPlain hplain, Text.segments, split_file hslash hsplit]
  simp

theorem ofPath?_file (hslash : '/' ∉ c.dotted.toList) (hc : "" ∉ Text.segments '.' c.dotted) :
    ofPath? c.file = some (ofDotted c.dotted) := by
  obtain ⟨front, last, hsplit⟩ :=
    (List.eq_nil_or_concat' _).resolve_left (Text.split_ne_nil '.' c.dotted.toList)
  have hcomponents := components_file hslash hc hsplit
  have hname : Text.segments '.' c.dotted = front.map String.ofList ++ [String.ofList last] := by
    rw [Text.segments, hsplit, List.map_append]
    rfl
  rw [hname, List.mem_append, not_or] at hc
  have hlast : last ≠ [] := by
    rintro rfl
    exact hc.2 List.mem_cons_self
  have hfileName : c.file.fileName? = some (String.ofList (last ++ classSuffix.toList)) := by
    rw [Path.fileName?, hcomponents, List.getLast?_concat]
  have hpackage : c.file.components.dropLast.map Path.Component.text = front.map String.ofList := by
    rw [hcomponents, List.dropLast_concat, List.map_map]
    exact List.map_id _
  have hextension : c.file.extension? = some "class" := by
    rw [Path.extension?, hfileName, Option.bind_some, splitExtension_classFile hlast]
  rw [ofPath?, if_pos hextension, Path.fileStem?, hfileName, Option.map_some, Option.map_some,
    splitExtension_classFile hlast, hpackage, inPackage_joined _ hc.1, ← hname,
    Text.joined_segments]

/-! ## All spellings -/

/-- A name that was read from any text is read again from its dotted name and from its two parts,
so names are equal exactly if their dotted names are. Without slashes in it, it is read from its
internal name, and if no segment is empty, also from the path of its file. A dotted name is kept as
it was read, except for one that is a dot and a name without dots. -/
theorem spellings_agree [Formats] :
    (∀ c : ClassName, c.Spelled →
      ofDotted c.dotted = c ∧ inPackage c.package c.simple = c ∧
      (∀ d : ClassName, d.Spelled → (c = d ↔ c.dotted = d.dotted)) ∧
      ('/' ∉ c.dotted.toList →
        ofInternal c.internal = c ∧
        ((∀ s ∈ Text.segments '.' c.dotted, s ≠ "") →
          ofPath? ⟨c.internal ++ ".class"⟩ = some c))) ∧
    ∀ text : String, (ofDotted text).dotted = text ↔
      ¬ ∃ name : String, '.' ∉ name.toList ∧ text = "." ++ name := by
  refine ⟨fun c hc => ?_, dotted_ofDotted_iff⟩
  have hback : ofDotted c.dotted = c := ofDotted_dotted hc.no_dot
  refine ⟨hback, ?_, ?_, ?_⟩
  · rw [inPackage_eq_ofDotted, hback]
  · intro d hd
    refine ⟨congrArg dotted, fun h => ?_⟩
    rw [← hback, h, ofDotted_dotted hd.no_dot]
  · intro hslash
    refine ⟨by rw [ofInternal_internal hslash, hback], fun hsegments => ?_⟩
    have hfile := ofPath?_file hslash fun hempty => hsegments "" hempty rfl
    rwa [hback] at hfile

/-- A nested class, read from the descriptor of an array of it. -/
theorem spellings_agree_nested :
    let c : ClassName := ⟨"p.q", "Outer$Inner"⟩
    c.Spelled ∧ ofDotted "p.q.Outer$Inner" = c ∧ ofInternal "p/q/Outer$Inner" = c ∧
    ofPath? ⟨"p/q/Outer$Inner.class"⟩ = some c ∧ (ofDotted ".Outer").dotted ≠ ".Outer" := by
  intro c
  have hdottedName : c.dotted = "p.q.Outer$Inner" := by decide
  have hinternalName : c.internal = "p/q/Outer$Inner" := by decide
  have hpathName : c.internal ++ ".class" = "p/q/Outer$Inner.class" := by decide
  have hread : Descriptor.readField "[Lp/q/Outer$Inner;" =
      .ok (.array ⟨.named c, 1⟩) := by
    decide +kernel
  have hc : c.Spelled := .field hread rfl
  obtain ⟨hnames, htexts⟩ := spellings_agree
  obtain ⟨hdotted, -, -, hrest⟩ := hnames c hc
  obtain ⟨hinternal, hpath⟩ := hrest (by decide)
  rw [hpathName] at hpath
  rw [hinternalName] at hinternal
  rw [hdottedName] at hdotted hpath
  refine ⟨hc, hdotted, hinternal, hpath (by decide), ?_⟩
  rw [ne_eq, htexts, not_not]
  exact ⟨"Outer", by decide, by decide⟩

end ClassName

end ClassAtlas
