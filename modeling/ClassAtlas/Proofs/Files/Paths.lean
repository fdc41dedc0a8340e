import ClassAtlas.FileSystem
import ClassAtlas.Proofs.Files.Tree
import Mathlib.Data.List.Perm.Basic

/-!
# Following paths

A path below a folder leads to what its segments lead to in the tree of the
folder, provided that none of them is special and that the whole path can be
followed. Raw paths are made of names in the same way, so that a walk through
the folder comes to all of its files.
-/

namespace ClassAtlas

/-- A segment that leads from a folder to an entry of it. -/
structure IsPlain (segment : String) : Prop where
  ne_empty : segment ≠ ""
  ne_here : segment ≠ "."
  ne_up : segment ≠ ".."

theorem isPlain_of_no_dot {segment : String} (hne : segment ≠ "") (hdot : '.' ∉ segment.toList) :
    IsPlain segment := by
  refine ⟨hne, ?_, ?_⟩
  · rintro rfl
    exact hdot (by decide)
  · rintro rfl
    exact hdot (by decide)

/-- A text that is one segment. -/
structure IsSegment (text : String) : Prop where
  ne_empty : text ≠ ""
  no_slash : '/' ∉ text.toList

namespace IsEntryName

variable {text : String}

theorem isPlain (h : IsEntryName (.ofText text)) : IsPlain text :=
  ⟨fun heq => h.ne_empty (congrArg _ heq), fun heq => h.ne_here (congrArg _ heq),
    fun heq => h.ne_up (congrArg _ heq)⟩

theorem isSegment (h : IsEntryName (.ofText text)) : IsSegment text :=
  ⟨h.isPlain.ne_empty, FileName.no_slash_iff.mp h.no_slash⟩

end IsEntryName

-- ---------------------------------------------------------------------------
-- Joined paths
-- ---------------------------------------------------------------------------

namespace Path

variable {base rest : Path}

theorem ext_toList {p q : Path} (h : p.text.toList = q.text.toList) : p = q := by
  obtain ⟨s⟩ := p
  obtain ⟨t⟩ := q
  exact congrArg Path.mk (String.toList_inj.mp h)

/-- The text without a slash at its end. -/
def trunk (p : Path) : List Char :=
  if p.text.toList.getLast? = some '/' then p.text.toList.dropLast else p.text.toList

theorem toList_eq_trunk (p : Path) :
    p.text.toList = p.trunk ∨ p.text.toList = p.trunk ++ ['/'] := by
  unfold trunk
  split
  · next h =>
    obtain ⟨front, hfront⟩ := List.getLast?_eq_some_iff.mp h
    simp [hfront]
  · exact .inl rfl

/-- One slash stands between the two texts, be it the last one of the first text or a new one. -/
theorem toList_join (hbase : base.text ≠ "") (hrest : rest.isAbsolute = false) :
    (base.join rest).text.toList = base.trunk ++ '/' :: rest.text.toList := by
  unfold join trunk
  rw [if_neg (by simp [hrest])]
  split
  · next hnone =>
    rw [List.getLast?_eq_none_iff] at hnone
    exact absurd (String.toList_eq_nil_iff.mp hnone) hbase
  · next hslash =>
    obtain ⟨front, hfront⟩ := List.getLast?_eq_some_iff.mp hslash
    simp [hfront]
  · next c hslash hlast =>
    rw [if_neg (by simpa [hlast] using hslash)]
    simp

theorem join_eq_of_trunk_eq (hbase : base.text ≠ "") (htrunk : base.trunk = base.text.toList)
    (hrest : rest.isAbsolute = false) : base.join rest = ⟨base.text ++ "/" ++ rest.text⟩ := by
  apply ext_toList
  simp [toList_join hbase hrest, htrunk]

theorem join_text_ne_empty (hbase : base.text ≠ "") (hrest : rest.isAbsolute = false) :
    (base.join rest).text ≠ "" := by
  intro h
  have hlist := toList_join hbase hrest
  simp [h] at hlist

/-- Under one path different texts make different paths. -/
theorem join_inj {other : Path} (hbase : base.text ≠ "") (hrest : rest.isAbsolute = false)
    (hother : other.isAbsolute = false) (h : base.join rest = base.join other) : rest = other := by
  have hlist := congrArg (·.text.toList) h
  simp only [toList_join hbase hrest, toList_join hbase hother, List.append_cancel_left_eq,
    List.cons.injEq, true_and] at hlist
  exact ext_toList hlist

theorem isAbsolute_join (hbase : base.text ≠ "") (hrest : rest.isAbsolute = false) :
    (base.join rest).isAbsolute = base.isAbsolute := by
  unfold isAbsolute
  rw [toList_join hbase hrest]
  rcases base.toList_eq_trunk with h | h
  · rw [h]
    cases htrunk : base.trunk with
    | nil => exact absurd (String.toList_eq_nil_iff.mp (h.trans htrunk)) hbase
    | cons c cs => rfl
  · rw [h]
    cases base.trunk <;> rfl

/-- A path without an empty segment does not start with a slash. -/
theorem isAbsolute_eq_false {p : Path} (h : "" ∉ Text.segments '/' p.text) :
    p.isAbsolute = false := by
  unfold isAbsolute
  cases htext : p.text.toList with
  | nil => rfl
  | cons c cs =>
    by_contra habsolute
    have hc : c = '/' := by simpa using habsolute
    apply h
    rw [Text.segments, htext, hc, Text.split_cons_self]
    exact List.mem_cons_self

theorem isAbsolute_joined {segments : List String} (h : ∀ text ∈ segments, IsSegment text)
    (hne : segments ≠ []) : (Path.mk (Text.joined '/' segments)).isAbsolute = false := by
  apply isAbsolute_eq_false
  rw [Text.segments_joined (fun text htext => (h text htext).no_slash) hne]
  exact fun hmem => (h "" hmem).ne_empty rfl

theorem isAbsolute_of_isSegment {text : String} (h : IsSegment text) :
    (Path.mk text).isAbsolute = false := by
  apply isAbsolute_eq_false
  rw [Text.segments, Text.split_of_not_mem h.no_slash]
  simpa using h.ne_empty.symm

theorem trunk_join {text : String} (hbase : base.text ≠ "") (htext : IsSegment text) :
    (base.join ⟨text⟩).trunk = base.trunk ++ '/' :: text.toList := by
  have hne : text.toList ≠ [] := fun h => htext.ne_empty (String.toList_eq_nil_iff.mp h)
  obtain ⟨front, last, hlast⟩ := List.eq_nil_or_concat' text.toList |>.resolve_left hne
  have hslash : last ≠ '/' := by
    rintro rfl
    exact htext.no_slash (by simp [hlast])
  have hend : (base.trunk ++ '/' :: text.toList).getLast? = some last := by
    rw [hlast, ← List.cons_append, ← List.append_assoc, List.getLast?_concat]
  unfold trunk at hend ⊢
  rw [toList_join hbase (isAbsolute_of_isSegment htext), trunk,
    if_neg (by simp [hend, hslash])]

/-- Segments under a path, one after the other. -/
theorem foldl_join {segments : List String} (hbase : base.text ≠ "")
    (h : ∀ text ∈ segments, IsSegment text) (hne : segments ≠ []) :
    segments.foldl (fun p text => p.join ⟨text⟩) base = base.join ⟨Text.joined '/' segments⟩ := by
  induction segments generalizing base with
  | nil => exact absurd rfl hne
  | cons text segments ih =>
    have htext : IsSegment text := h text List.mem_cons_self
    have hrest : ∀ other ∈ segments, IsSegment other := fun other hother =>
      h other (List.mem_cons_of_mem _ hother)
    cases segments with
    | nil => simp [Text.joined, Text.join]
    | cons second segments =>
      have hnext := join_text_ne_empty hbase (isAbsolute_of_isSegment htext)
      rw [List.foldl_cons, ih hnext hrest (by simp)]
      apply ext_toList
      rw [toList_join hnext (isAbsolute_joined hrest (by simp)), trunk_join hbase htext,
        toList_join hbase (isAbsolute_joined h (by simp))]
      simp [Text.joined, Text.join]

end Path

-- ---------------------------------------------------------------------------
-- Raw paths
-- ---------------------------------------------------------------------------

namespace RawPath

variable {p : RawPath}

/-- The bytes without a slash at their end. -/
def trunk (p : RawPath) : Bytes :=
  if p.bytes.getLast? = some slash then p.bytes.dropLast else p.bytes

theorem bytes_enter (hp : p.bytes ≠ []) (name : FileName) :
    (p.enter name).bytes = p.trunk ++ slash :: name.bytes := by
  unfold enter trunk
  split
  · next hnone => exact absurd (List.getLast?_eq_none_iff.mp hnone) hp
  · next last hlast =>
    split
    · next hslash =>
      subst hslash
      obtain ⟨front, hfront⟩ := List.getLast?_eq_some_iff.mp hlast
      simp [hfront]
    · next hslash => simp [hlast, hslash]

theorem exists_bytes_enter (p : RawPath) (name : FileName) :
    ∃ more, (p.enter name).bytes = p.bytes ++ more := by
  unfold enter
  split
  · next hnone => exact ⟨_, by rw [List.getLast?_eq_none_iff.mp hnone, List.nil_append]⟩
  · split
    · exact ⟨_, rfl⟩
    · exact ⟨_, rfl⟩

theorem bytes_enter_ne_nil (hp : p.bytes ≠ []) (name : FileName) : (p.enter name).bytes ≠ [] := by
  simp [bytes_enter hp]

/-- Both sides of the slash are shown as they are alone. -/
theorem shown_enter (hp : p.bytes ≠ []) (name : FileName) :
    (p.enter name).shown.text.toList =
      (Text.Utf8.decodeLossy p.trunk).toList ++ '/' :: name.shown.toList := by
  rw [shown, bytes_enter hp]
  exact Text.Utf8.decodeLossy_append_cons (c := '/') (by decide) _ _

/-- Names under a path, one after the other. -/
def descend (p : RawPath) (names : List FileName) : RawPath :=
  names.foldl enter p

@[simp] theorem descend_nil (p : RawPath) : p.descend [] = p := rfl

@[simp] theorem descend_cons (p : RawPath) (name : FileName) (names : List FileName) :
    p.descend (name :: names) = (p.enter name).descend names := rfl

theorem descend_concat (p : RawPath) (names : List FileName) (name : FileName) :
    p.descend (names ++ [name]) = (p.descend names).enter name := by
  simp [descend]

theorem bytes_descend_ne_nil (hp : p.bytes ≠ []) (names : List FileName) :
    (p.descend names).bytes ≠ [] := by
  induction names generalizing p with
  | nil => exact hp
  | cons name names ih => exact ih (bytes_enter_ne_nil hp name)

end RawPath

namespace Path

variable {base rest p : Path}

@[simp] theorem shown_raw (p : Path) : p.raw.shown = p :=
  congrArg Path.mk (Text.Utf8.decodeLossy_encode p.text)

theorem bytes_raw_ne_nil (h : p.text ≠ "") : p.raw.bytes ≠ [] := by
  intro hnil
  have hempty : Text.Utf8.encode p.text = Text.Utf8.encode "" := hnil
  exact h (Text.Utf8.encode_injective hempty)

theorem raw_join (hrest : rest.isAbsolute = false) :
    (base.join rest).raw = base.raw.enter (.ofText rest.text) := by
  have hslash : base.raw.bytes.getLast? = some RawPath.slash ↔
      base.text.toList.getLast? = some '/' :=
    Text.Utf8.getLast?_encode_iff (c := '/') (by decide)
  have hone : Text.Utf8.encode "/" = [RawPath.slash] := by decide +kernel
  unfold join RawPath.enter
  rw [if_neg (by simp [hrest])]
  split
  · next hnone =>
    have hempty : base.text = "" :=
      String.toList_eq_nil_iff.mp (List.getLast?_eq_none_iff.mp hnone)
    have hbytes : base.raw.bytes = [] := by
      rw [raw, hempty]
      rfl
    rw [hbytes]
    rfl
  · next hlast =>
    rw [hslash.mpr hlast]
    simp [raw, FileName.ofText, Text.Utf8.encode_append]
  · next c hne hlast =>
    have hbase : base.text ≠ "" := by
      intro hempty
      simp [hempty] at hlast
    obtain ⟨last, hbytes⟩ := Option.isSome_iff_exists.mp
      (List.getLast?_isSome.mpr (bytes_raw_ne_nil hbase))
    have hother : last ≠ RawPath.slash := by
      rintro rfl
      rw [hslash, hlast] at hbytes
      exact hne (Option.some.inj hbytes)
    rw [hbytes]
    simp [raw, FileName.ofText, Text.Utf8.encode_append, hother, hone]

/-- Texts under a path make the path of their join. -/
theorem raw_descend {segments : List String} (hbase : base.text ≠ "")
    (h : ∀ text ∈ segments, IsSegment text) (hne : segments ≠ []) :
    base.raw.descend (segments.map .ofText) = (base.join ⟨Text.joined '/' segments⟩).raw := by
  have hfold (base : Path) : base.raw.descend (segments.map .ofText) =
      (segments.foldl (fun p text => p.join ⟨text⟩) base).raw := by
    clear hne
    induction segments generalizing base with
    | nil => rfl
    | cons text segments ih =>
      obtain ⟨htext, hrest⟩ := List.forall_mem_cons.mp h
      rw [List.map_cons, RawPath.descend_cons, ← raw_join (isAbsolute_of_isSegment htext),
        ih hrest, List.foldl_cons]
  rw [hfold, foldl_join hbase h hne]

end Path

-- ---------------------------------------------------------------------------
-- Following
-- ---------------------------------------------------------------------------

namespace FileSystem

variable {fs : FileSystem} {root rest : Path}

theorem isProper_iff {p : RawPath} :
    isProper p = true ↔ p.bytes ≠ [] ∧ p.bytes.length < pathLimit ∧ 0 ∉ p.bytes := by
  simp [isProper, and_assoc]

theorem isProper_raw_iff {p : Path} :
    isProper p.raw = true ↔
      p.text ≠ "" ∧ p.text.utf8ByteSize < pathLimit ∧ '\x00' ∉ p.text.toList := by
  have hempty : p.raw.bytes ≠ [] ↔ p.text ≠ "" := by
    refine ⟨?_, Path.bytes_raw_ne_nil⟩
    rintro hbytes hempty
    rw [Path.raw, hempty] at hbytes
    exact hbytes rfl
  rw [isProper_iff, hempty, Path.raw, Text.Utf8.length_encode]
  exact and_congr_right' (and_congr_right' FileName.no_zero_iff)

theorem text_ne_empty_of_isProper {p : Path} (h : isProper p.raw = true) : p.text ≠ "" :=
  (isProper_raw_iff.mp h).1

/-- Where a path can be followed, so can the paths of the folders on the way. -/
theorem isProper_of_enter {p : RawPath} (hp : p.bytes ≠ []) {name : FileName}
    (h : isProper (p.enter name) = true) : isProper p = true := by
  obtain ⟨more, hmore⟩ := p.exists_bytes_enter name
  obtain ⟨-, hlength, hzero⟩ := isProper_iff.mp h
  rw [hmore, List.length_append] at hlength
  rw [hmore, List.mem_append, not_or] at hzero
  exact isProper_iff.mpr ⟨hp, by omega, hzero.1⟩

theorem isProper_of_descend {p : RawPath} (hp : p.bytes ≠ []) {names : List FileName}
    (h : isProper (p.descend names) = true) : isProper p = true := by
  induction names generalizing p with
  | nil => exact h
  | cons name names ih => exact isProper_of_enter hp (ih (p.bytes_enter_ne_nil hp name) h)

theorem stepTo_of_isPlain (fs : FileSystem) (names : List FileName) {segment : String}
    (h : IsPlain segment) :
    fs.stepTo names segment =
      if (fs.root.at? (names ++ [.ofText segment])).isSome then some (names ++ [.ofText segment])
      else none := by
  have happend := fs.root.at?_append names [.ofText segment]
  unfold stepTo
  cases hfound : fs.root.at? names with
  | none => simp [happend, hfound]
  | some found =>
    cases found with
    | file bytes => simp [happend, hfound, FileTree.at?, FileTree.entry?]
    | folder entries =>
      dsimp only
      split
      · exact absurd rfl h.ne_empty
      · exact absurd rfl h.ne_here
      · exact absurd rfl h.ne_up
      · rfl

theorem bind_foldlM_stepTo (fs : FileSystem) (names : List FileName) {segments : List String}
    (h : ∀ segment ∈ segments, IsPlain segment) :
    (segments.foldlM fs.stepTo names).bind fs.root.at? =
      fs.root.at? (names ++ segments.map .ofText) := by
  induction segments generalizing names with
  | nil => simp
  | cons segment segments ih =>
    have hrest : ∀ other ∈ segments, IsPlain other := fun other hother =>
      h other (List.mem_cons_of_mem _ hother)
    have hassoc : names ++ (segment :: segments).map FileName.ofText =
        names ++ [.ofText segment] ++ segments.map .ofText := by simp
    rw [List.foldlM_cons, stepTo_of_isPlain fs names (h segment List.mem_cons_self), hassoc]
    split
    · exact ih _ hrest
    · next hnone =>
      rw [FileTree.at?_append, Option.not_isSome_iff_eq_none.mp hnone]
      rfl

/-- Empty segments lead nowhere else. -/
theorem eq_of_foldlM_stepTo {names target : List FileName} {segments : List String}
    (h : ∀ segment ∈ segments, segment ≠ "" → IsPlain segment)
    (hfold : segments.foldlM fs.stepTo names = some target) :
    target = names ++ (segments.filter (· ≠ "")).map .ofText := by
  induction segments generalizing names with
  | nil => simpa using hfold.symm
  | cons segment segments ih =>
    rw [List.foldlM_cons] at hfold
    obtain ⟨next, hstep, hrest⟩ := Option.bind_eq_some_iff.mp hfold
    have hnext := ih (fun other hother => h other (List.mem_cons_of_mem _ hother)) hrest
    by_cases hempty : segment = ""
    · subst hempty
      have hstay : next = names := by
        unfold stepTo at hstep
        split at hstep
        · exact (Option.some.inj hstep).symm
        · cases hstep
      simp [hnext, hstay]
    · rw [stepTo_of_isPlain fs names (h segment List.mem_cons_self hempty)] at hstep
      split at hstep
      · simp [hnext, ← Option.some.inj hstep, hempty]
      · cases hstep

theorem exists_of_find? {p : Path} {found : FileTree} (h : fs.find? p = some found) :
    isProper p.raw = true ∧ ∃ names,
      (Text.segments '/' p.text).foldlM fs.stepTo (fs.start p) = some names ∧
      fs.root.at? names = some found := by
  obtain ⟨names, hresolve, hat⟩ := Option.bind_eq_some_iff.mp h
  unfold resolve? at hresolve
  split at hresolve
  · next hproper => exact ⟨hproper, names, hresolve, hat⟩
  · cases hresolve

theorem read?_of_not_isProper {p : Path} (h : isProper p.raw = false) : fs.read? p = none := by
  simp [read?, find?, resolve?, h]

/-- A path leads to the same place without the slash at its end. -/
theorem foldlM_trunk {names : List FileName}
    (h : (Text.segments '/' root.text).foldlM fs.stepTo (fs.start root) = some names) :
    ((Text.split '/' root.trunk).map String.ofList).foldlM fs.stepTo (fs.start root) =
      some names := by
  unfold Text.segments at h
  rcases root.toList_eq_trunk with htrunk | htrunk
  · rwa [htrunk] at h
  · rw [htrunk, Text.split_append_cons, List.map_append, List.foldlM_append] at h
    obtain ⟨before, hbefore, hlast⟩ := Option.bind_eq_some_iff.mp h
    have hstay : fs.stepTo before "" = some names := by simpa using hlast
    unfold stepTo at hstay
    split at hstay
    · rw [hbefore, ← Option.some.inj hstay]
    · cases hstay

/-- Under a path the segments are followed from where the path leads to. -/
theorem resolve?_join {names : List FileName} (hroot : isProper root.raw = true)
    (hnames : (Text.segments '/' root.text).foldlM fs.stepTo (fs.start root) = some names)
    (hrelative : rest.isAbsolute = false) (hproper : isProper (root.join rest).raw = true) :
    fs.resolve? (root.join rest) = (Text.segments '/' rest.text).foldlM fs.stepTo names := by
  have hbase : root.text ≠ "" := text_ne_empty_of_isProper hroot
  have hsegments : Text.segments '/' (root.join rest).text =
      (Text.split '/' root.trunk).map String.ofList ++ Text.segments '/' rest.text := by
    unfold Text.segments
    rw [Path.toList_join hbase hrelative, Text.split_append_cons, List.map_append]
  have hstart : fs.start (root.join rest) = fs.start root := by
    unfold start
    rw [Path.isAbsolute_join hbase hrelative]
  unfold resolve?
  rw [if_pos hproper, hsegments, hstart, List.foldlM_append, foldlM_trunk hnames]
  rfl

/-- Below a folder names lead where they lead in its tree. -/
theorem find?_join {entries : List (FileName × FileTree)}
    (hroot : fs.find? root = some (.folder entries))
    (hrest : ∀ segment ∈ Text.segments '/' rest.text, IsPlain segment)
    (hproper : isProper (root.join rest).raw = true) :
    fs.find? (root.join rest) =
      (FileTree.folder entries).at? ((Text.segments '/' rest.text).map .ofText) := by
  obtain ⟨hrootProper, names, hnames, hat⟩ := exists_of_find? hroot
  have hrelative : rest.isAbsolute = false :=
    Path.isAbsolute_eq_false fun hempty => (hrest "" hempty).ne_empty rfl
  rw [find?, resolve?_join hrootProper hnames hrelative hproper,
    bind_foldlM_stepTo fs names hrest, FileTree.at?_append, hat]
  rfl

/-- What is found below a folder is in its tree, at the end of the segments that are not empty. -/
theorem at?_of_find?_join {entries : List (FileName × FileTree)} {found : FileTree}
    (hroot : fs.find? root = some (.folder entries)) (hrelative : rest.isAbsolute = false)
    (hrest : ∀ segment ∈ Text.segments '/' rest.text, segment ≠ "" → IsPlain segment)
    (h : fs.find? (root.join rest) = some found) :
    (FileTree.folder entries).at? (((Text.segments '/' rest.text).filter (· ≠ "")).map .ofText) =
      some found := by
  obtain ⟨hrootProper, names, hnames, hat⟩ := exists_of_find? hroot
  rw [find?, resolve?_join hrootProper hnames hrelative (exists_of_find? h).1] at h
  obtain ⟨target, htarget, hfound⟩ := Option.bind_eq_some_iff.mp h
  rw [eq_of_foldlM_stepTo hrest htarget, FileTree.at?_append, hat] at hfound
  exact hfound

/-- A dot behind the path of a folder leads to the folder. -/
theorem find?_join_here {entries : List (FileName × FileTree)}
    (hroot : fs.find? root = some (.folder entries))
    (hproper : isProper (root.join ⟨"."⟩).raw = true) :
    fs.find? (root.join ⟨"."⟩) = some (.folder entries) := by
  obtain ⟨hrootProper, names, hnames, hat⟩ := exists_of_find? hroot
  have hsegments : Text.segments '/' "." = ["."] := by decide
  have hstay : fs.stepTo names "." = some names := by
    unfold stepTo
    rw [hat]
    rfl
  rw [find?, resolve?_join hrootProper hnames (by decide) hproper, hsegments]
  simpa [hstay] using hat

theorem read?_eq_some_iff {p : Path} {bytes : Bytes} :
    fs.read? p = some bytes ↔ fs.find? p = some (.file bytes) := by
  unfold read?
  cases fs.find? p with
  | none => simp
  | some found => cases found <;> simp

-- ---------------------------------------------------------------------------
-- Short paths
-- ---------------------------------------------------------------------------

/-- Whatever is in the tree at `root`, its path is not too long. -/
def Short (root : Path) (t : FileTree) : Prop :=
  ∀ names found, names ≠ [] → t.at? names = some found →
    (root.raw.descend names).bytes.length < pathLimit

/-- Names hold no zeros, so their paths do not. -/
theorem not_mem_descend {p : RawPath} {names : List FileName} (hp : p.bytes ≠ [])
    (hzero : 0 ∉ p.bytes) (h : ∀ name ∈ names, IsEntryName name) :
    0 ∉ (p.descend names).bytes := by
  induction names generalizing p with
  | nil => exact hzero
  | cons name names ih =>
    obtain ⟨hname, hrest⟩ := List.forall_mem_cons.mp h
    refine ih (p.bytes_enter_ne_nil hp name) ?_ hrest
    have htrunk : 0 ∉ p.trunk := by
      unfold RawPath.trunk
      split
      · exact fun hmem => hzero ((List.dropLast_sublist _).subset hmem)
      · exact hzero
    have hslash : (0 : UInt8) ≠ RawPath.slash := by decide
    simp [RawPath.bytes_enter hp, htrunk, hslash, hname.no_zero]

theorem Short.isProper_descend {t : FileTree} (h : Short root t) (ht : t.Sound)
    (hroot : isProper root.raw = true) {names : List FileName} {found : FileTree}
    (hat : t.at? names = some found) : isProper (root.raw.descend names) = true := by
  by_cases hne : names = []
  · rwa [hne]
  · obtain ⟨hbase, -, hzero⟩ := isProper_iff.mp hroot
    exact isProper_iff.mpr ⟨RawPath.bytes_descend_ne_nil hbase names, h names found hne hat,
      not_mem_descend hbase hzero (ht.isEntryName hat)⟩

/-- The files below a folder are those of its tree. -/
theorem Short.read?_join {entries : List (FileName × FileTree)} (h : Short root (.folder entries))
    (ht : (FileTree.folder entries).Sound) (hroot : fs.find? root = some (.folder entries))
    (hrest : ∀ segment ∈ Text.segments '/' rest.text, IsPlain segment) :
    fs.read? (root.join rest) = (FileTree.folder entries).content? rest.text := by
  obtain ⟨hrootProper, -⟩ := exists_of_find? hroot
  ext bytes
  rw [read?_eq_some_iff, FileTree.content?_eq_some_iff]
  constructor
  · intro hfind
    rw [← find?_join hroot hrest (exists_of_find? hfind).1, hfind]
  · intro hat
    have hsegments : ∀ text ∈ Text.segments '/' rest.text, IsSegment text := fun text htext =>
      ⟨(hrest text htext).ne_empty, Text.not_mem_of_mem_segments htext⟩
    have hpath := Path.raw_descend (text_ne_empty_of_isProper hrootProper) hsegments
      (Text.segments_ne_nil _ _)
    rw [Text.joined_segments] at hpath
    have hproper : isProper (root.join rest).raw = true := by
      rw [← hpath]
      exact h.isProper_descend ht hrootProper hat
    rw [find?_join hroot hrest hproper, hat]

-- ---------------------------------------------------------------------------
-- Walks
-- ---------------------------------------------------------------------------

theorem walkEntries_eq_map (path : RawPath) (entries : List (FileName × FileTree)) :
    walkEntries path entries =
      entries.map fun e => (path.enter e.1, walk (path.enter e.1) e.2) := by
  induction entries with
  | nil => rfl
  | cons e entries ih => rw [walkEntries, ih, List.map_cons]

/-- Where all paths can be followed, a walk comes to all files. -/
theorem walk_perm {t : FileTree} (ht : t.Sound) (path : RawPath)
    (hproper : ∀ names found, t.at? names = some found → isProper (path.descend names) = true) :
    (walk path t).Perm (t.files.map fun f => (path.descend f.1, some f.2)) := by
  induction ht generalizing path with
  | file bytes =>
    have hpath : isProper path = true := hproper [] _ rfl
    simp [walk, hpath]
  | @folder entries distinct _ _ ih =>
    have hpath : isProper path = true := hproper [] _ rfl
    rw [walk, if_pos hpath, FileTree.files_folder, List.map_flatMap]
    refine ((List.mergeSort_perm _ _).flatMap_right _).trans ?_
    rw [walkEntries_eq_map, List.flatMap_map]
    refine List.Perm.flatMap_left _ fun e he => ?_
    rw [List.map_map]
    refine ih e he _ fun names found hat => hproper (e.1 :: names) found ?_
    exact (FileTree.at?_cons_eq_some_iff distinct).mpr ⟨e.2, he, hat⟩

end FileSystem

-- ---------------------------------------------------------------------------
-- Long ways
-- ---------------------------------------------------------------------------

namespace Path

/-- A path to a folder, with as many dots behind it. -/
def roundabout (folder : String) : Nat → Path
  | 0 => ⟨folder⟩
  | n + 1 => ⟨(roundabout folder n).text ++ "/."⟩

variable {folder : String}

theorem text_roundabout_ne_empty (h : IsSegment folder) (n : Nat) :
    (roundabout folder n).text ≠ "" := by
  cases n with
  | zero => exact h.ne_empty
  | succ n => simp [roundabout]

theorem trunk_roundabout (h : IsSegment folder) (n : Nat) :
    (roundabout folder n).trunk = (roundabout folder n).text.toList := by
  unfold trunk
  rw [if_neg]
  cases n with
  | zero => exact fun hlast => h.no_slash (List.mem_of_getLast? hlast)
  | succ n => simp [roundabout]

theorem join_roundabout (h : IsSegment folder) (n : Nat) {rest : Path}
    (hrest : rest.isAbsolute = false) :
    (roundabout folder n).join rest = ⟨(roundabout folder n).text ++ "/" ++ rest.text⟩ :=
  join_eq_of_trunk_eq (text_roundabout_ne_empty h n) (trunk_roundabout h n) hrest

theorem utf8ByteSize_roundabout (folder : String) (n : Nat) :
    (roundabout folder n).text.utf8ByteSize = folder.utf8ByteSize + 2 * n := by
  induction n with
  | zero => rfl
  | succ n ih =>
    have hdot : "/.".utf8ByteSize = 2 := rfl
    rw [roundabout, String.utf8ByteSize_append, ih, hdot]
    omega

end Path

namespace FileSystem

variable {folder : String} {n : Nat}

theorem isProper_roundabout (h : IsEntryName (.ofText folder))
    (hsize : folder.utf8ByteSize + 2 * n < pathLimit) :
    isProper (Path.roundabout folder n).raw = true := by
  refine isProper_raw_iff.mpr ⟨Path.text_roundabout_ne_empty h.isSegment n, ?_, ?_⟩
  · rwa [Path.utf8ByteSize_roundabout]
  · clear hsize
    induction n with
    | zero => exact FileName.no_zero_iff.mp h.no_zero
    | succ n ih => simp [Path.roundabout, ih]

/-- Below the end of enough dots a path is too long. -/
theorem not_isProper_join_roundabout (h : IsSegment folder) {rest : Path}
    (hrest : rest.isAbsolute = false)
    (hsize : pathLimit ≤ folder.utf8ByteSize + 2 * n + 1 + rest.text.utf8ByteSize) :
    isProper ((Path.roundabout folder n).join rest).raw = false := by
  rw [Bool.eq_false_iff]
  intro hproper
  have hlength := (isProper_raw_iff.mp hproper).2.1
  have hslash : "/".utf8ByteSize = 1 := rfl
  rw [Path.join_roundabout h n hrest, String.utf8ByteSize_append, String.utf8ByteSize_append,
    Path.utf8ByteSize_roundabout, hslash] at hlength
  omega

/-- The dots lead to the folder again. -/
theorem find?_roundabout {fs : FileSystem} {entries : List (FileName × FileTree)}
    (h : IsEntryName (.ofText folder)) (hfolder : fs.find? ⟨folder⟩ = some (.folder entries))
    (hsize : folder.utf8ByteSize + 2 * n < pathLimit) :
    fs.find? (Path.roundabout folder n) = some (.folder entries) := by
  induction n with
  | zero => exact hfolder
  | succ n ih =>
    have hjoin : Path.roundabout folder (n + 1) = (Path.roundabout folder n).join ⟨"."⟩ := by
      rw [Path.join_roundabout h.isSegment n (by decide), Path.roundabout, String.append_assoc]
      rfl
    rw [hjoin]
    apply find?_join_here (ih (by omega))
    rw [← hjoin]
    exact isProper_roundabout h hsize

end FileSystem

end ClassAtlas
