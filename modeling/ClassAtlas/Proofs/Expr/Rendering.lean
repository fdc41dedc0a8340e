import ClassAtlas.Proofs.Expr.Edits
import ClassAtlas.Proofs.Names.Quoting

/-!
# Rendered expressions

An expression gives the same pieces to every sink, so its text is the text of
its recorded pieces one after the other. A piece in turn is made of names and
of words around them, and quotation changes the names only.
-/

namespace ClassAtlas

/-! ## From one sink to another -/

namespace Sink

variable {α σ τ : Type} {source : Sink σ} {target : Sink τ} {f : σ → τ}

/-- The map takes what one sink makes of a piece to what the other makes of it. -/
structure Hom (source : Sink σ) (target : Sink τ) (f : σ → τ) : Prop where
  literal : ∀ text s, f (source.literal text s) = target.literal text (f s)
  type : ∀ type s, f (source.type type s) = target.type type (f s)
  var : ∀ l s, f (source.var l s) = target.var l (f s)
  const : ∀ c s, f (source.const c s) = target.const c (f s)
  method : ∀ m s, f (source.method m s) = target.method m (f s)

namespace Hom

variable {p : α → σ → σ} {q : α → τ → τ}

theorem sizes (h : Hom source target f) {xs : List α}
    (hxs : ∀ x ∈ xs, ∀ s, f (p x s) = q x (f s)) (s : σ) :
    f (source.sizes (xs.map p) s) = target.sizes (xs.map q) (f s) := by
  induction xs generalizing s with
  | nil => rfl
  | cons x xs ih =>
    have hx := hxs x List.mem_cons_self
    rw [List.map_cons, List.map_cons, Sink.sizes, Sink.sizes,
      ih fun y hy => hxs y (List.mem_cons_of_mem _ hy), h.literal, hx, h.literal]

theorem unsized (h : Hom source target f) (n : Nat) (s : σ) :
    f (source.unsized n s) = target.unsized n (f s) := by
  induction n generalizing s with
  | zero => rfl
  | succ n ih => rw [Sink.unsized, Sink.unsized, ih, h.literal]

theorem args (h : Hom source target f) {xs : List α}
    (hxs : ∀ x ∈ xs, ∀ s, f (p x s) = q x (f s)) (s : σ) :
    f (source.args (xs.map p) s) = target.args (xs.map q) (f s) := by
  induction xs generalizing s with
  | nil => rfl
  | cons x xs ih =>
    have hx := hxs x List.mem_cons_self
    have hrest := ih fun y hy => hxs y (List.mem_cons_of_mem _ hy)
    cases xs with
    | nil => exact hx s
    | cons y ys =>
      simp only [List.map_cons, Sink.args] at hrest ⊢
      rw [hrest, h.literal, hx]

theorem base (h : Hom source target f) {x : Option α}
    (hx : ∀ y ∈ x, ∀ s, f (p y s) = q y (f s)) (s : σ) :
    f (source.base (x.map p) s) = target.base (x.map q) (f s) := by
  cases x with
  | none => rfl
  | some y => rw [Option.map_some, Option.map_some, Sink.base, Sink.base, h.literal, hx y rfl]

/-- A map that goes along with the pieces and with the operands goes along with the node. -/
theorem node (h : Hom source target f) {n : Node α}
    (hn : ∀ x ∈ n.operands, ∀ s, f (p x s) = q x (f s)) (s : σ) :
    f (source.node (n.map p) s) = target.node (n.map q) (f s) := by
  cases n with
  | binary op left right =>
    have hleft := hn left (by simp [Node.operands])
    have hright := hn right (by simp [Node.operands])
    simp only [Node.map, Sink.node, h.literal, hleft, hright]
  | unary op operand =>
    have hoperand := hn operand (by simp [Node.operands])
    simp only [Node.map, Sink.node, h.literal, hoperand]
  | cast operand type | instanceOf operand type =>
    have hoperand := hn operand (by simp [Node.operands])
    simp only [Node.map, Sink.node, h.literal, h.type, hoperand]
  | new name => simp only [Node.map, Sink.node, h.literal, h.type]
  | newArray element size =>
    have hsize := hn size (by simp [Node.operands])
    simp only [Node.map, Sink.node, h.literal, h.type, hsize]
  | newMultiArray type sizes =>
    have hsizes : ∀ s, f (source.sizes (sizes.map p) s) = target.sizes (sizes.map q) (f s) :=
      h.sizes hn
    simp only [Node.map, Sink.node, List.length_map, h.unsized, hsizes, h.literal, h.type]
  | invoke kind method base args =>
    have hbase : ∀ s, f (source.base (base.map p) s) = target.base (base.map q) (f s) :=
      h.base fun x hx => hn x (List.mem_append_left _ (Option.mem_toList.mpr hx))
    have hargs : ∀ s, f (source.args (args.map p) s) = target.args (args.map q) (f s) :=
      h.args fun x hx => hn x (List.mem_append_right _ hx)
    simp only [Node.map, Sink.node, h.literal, h.method, hbase, hargs]

theorem leaf (h : Hom source target f) (l : Leaf) (s : σ) :
    f (source.leaf l s) = target.leaf l (f s) := by
  cases l with
  | var l => exact h.var l s
  | const c => exact h.const c s

end Hom

end Sink

namespace Tree

variable {σ τ : Type} {source : Sink σ} {target : Sink τ} {f : σ → τ}

@[simp] theorem print_leaf (sink : Sink σ) (l : Leaf) : (leaf l).print sink = sink.leaf l := rfl

@[simp] theorem print_node (sink : Sink σ) (n : Node (Slot × Tree)) :
    (node n).print sink = sink.node (n.map fun t => t.2.print sink) := by
  rw [print, fold_node, Node.map_map]
  rfl

theorem print_hom (h : Sink.Hom source target f) (t : Tree) (s : σ) :
    f (t.print source s) = t.print target (f s) := by
  induction t using Tree.induction generalizing s with
  | leaf l => exact h.leaf l s
  | node n ih =>
    rw [print_node, print_node]
    exact h.node ih s

end Tree

/-! ## Names and words -/

/-- A part of a printed piece. -/
inductive Fragment where
  | word (text : String)
  | name (text : String)
deriving DecidableEq

/-- The text of a fragment, names being spelled by the function. -/
def Fragment.text (spell : String → String) : Fragment → String
  | word text => text
  | name text => spell text

/-- The text of many fragments, one after the other. -/
def Fragment.texts (spell : String → String) (fragments : List Fragment) : String :=
  String.join (fragments.map (Fragment.text spell))

def BaseType.fragments : BaseType → List Fragment
  | primitive p => [.word p.name]
  | named c => [.name c.dotted]

def JavaType.fragments : JavaType → List Fragment
  | named c => [.name c.dotted]
  | array a => a.base.fragments ++ [.word (brackets a.dimensions.toNat)]
  | other => [.word other.text]

def MethodRef.fragments (m : MethodRef) : List Fragment :=
  [.word "<", .name m.owner.dotted, .word ": "] ++ m.result.fragments ++
    [.word " ", .name m.name, .word "("] ++
    List.intercalate [.word ","] (m.params.map JavaType.fragments) ++ [.word ")>"]

namespace Event

/-- The piece as it is displayed on its own. -/
def text : Event → String
  | literal text => text
  | type t => t.text
  | var l => l.name
  | const c => c.text
  | method m => m.text

/-- The names in a piece are those of variables, methods and classes. What stands in a constant is
no name, not even in one for a class. -/
def fragments : Event → List Fragment
  | literal text => [.word text]
  | type t => t.fragments
  | var l => [.name l.name]
  | const c => [.word c.text]
  | method m => m.fragments

/-- What a text sink appends for the piece. -/
def written (style : NameStyle) : Event → String
  | literal text => text
  | type t => style.type t
  | var l => style.name l.name
  | const c => c.text
  | method m => style.method m

end Event

namespace Fragment

variable (spell : String → String)

@[simp] theorem texts_nil : texts spell [] = "" := by
  simp [texts]

@[simp] theorem texts_cons (x : Fragment) (xs : List Fragment) :
    texts spell (x :: xs) = x.text spell ++ texts spell xs := by
  simp [texts]

@[simp] theorem texts_append (xs ys : List Fragment) :
    texts spell (xs ++ ys) = texts spell xs ++ texts spell ys := by
  simp [texts]

theorem texts_commas (xs ys : List Fragment) (rest : List (List Fragment)) :
    texts spell (List.intercalate [.word ","] (xs :: ys :: rest)) =
      texts spell xs ++ "," ++ texts spell (List.intercalate [.word ","] (ys :: rest)) := by
  rw [List.intercalate_cons_cons]
  simp [text, String.append_assoc]

theorem texts_flatMap {α : Type} (f : α → List Fragment) (xs : List α) :
    texts spell (xs.flatMap f) = String.join (xs.map fun x => texts spell (f x)) := by
  induction xs with
  | nil => simp
  | cons x xs ih => simp [ih]

/-- Only the spelling of the names that occur matters. -/
theorem texts_congr {spell' : String → String} {xs : List Fragment}
    (h : ∀ name, .name name ∈ xs → spell name = spell' name) :
    texts spell xs = texts spell' xs := by
  refine congrArg String.join (List.map_congr_left fun x hx => ?_)
  cases x with
  | word text => rfl
  | name text => exact h text hx

end Fragment

/-! ## Pieces -/

theorem NameStyle.type_eq_texts (style : NameStyle) (t : JavaType) :
    style.type t = Fragment.texts style.name t.fragments := by
  cases t with
  | array a =>
    obtain ⟨base, dimensions⟩ := a
    cases base <;>
      simp [type, NameStyle.base, JavaType.fragments, BaseType.fragments, Fragment.text]
  | primitive | named | null | void | unknown =>
    simp [type, JavaType.fragments, Fragment.text]

theorem JavaType.text_eq_texts (t : JavaType) : t.text = Fragment.texts id t.fragments := by
  cases t with
  | array a =>
    obtain ⟨base, dimensions⟩ := a
    cases base <;>
      simp [text, ArrayType.text, BaseType.text, fragments, BaseType.fragments, Fragment.text]
  | primitive | named | null | void | unknown => simp [text, fragments, Fragment.text]

theorem NameStyle.types_eq_texts (style : NameStyle) (ts : List JavaType) :
    style.types ts = Fragment.texts style.name
      (List.intercalate [.word ","] (ts.map JavaType.fragments)) := by
  fun_induction NameStyle.types style ts with
  | case1 => simp
  | case2 t => simp [type_eq_texts]
  | case3 t next rest ih =>
    rw [ih, type_eq_texts]
    exact (Fragment.texts_commas _ _ _ _).symm

theorem typeList_eq_texts (ts : List JavaType) :
    typeList ts = Fragment.texts id
      (List.intercalate [.word ","] (ts.map JavaType.fragments)) := by
  fun_induction typeList ts with
  | case1 => simp
  | case2 t => simp [JavaType.text_eq_texts]
  | case3 t rest hrest ih =>
    obtain ⟨next, rest, rfl⟩ := List.exists_cons_of_ne_nil hrest
    rw [ih, JavaType.text_eq_texts]
    exact (Fragment.texts_commas _ _ _ _).symm

theorem NameStyle.method_eq_texts (style : NameStyle) (m : MethodRef) :
    style.method m = Fragment.texts style.name m.fragments := by
  have howner : style.type (.named m.owner) = style.name m.owner.dotted := rfl
  simp [method, MethodRef.fragments, howner, types_eq_texts, type_eq_texts, Fragment.text,
    String.append_assoc]

theorem MethodRef.text_eq_texts (m : MethodRef) : m.text = Fragment.texts id m.fragments := by
  simp [text, fragments, typeList_eq_texts, JavaType.text_eq_texts, Fragment.text,
    String.append_assoc]

namespace Event

theorem written_eq_texts (style : NameStyle) (e : Event) :
    e.written style = Fragment.texts style.name e.fragments := by
  cases e with
  | type t => exact style.type_eq_texts t
  | method m => exact style.method_eq_texts m
  | literal | var | const => simp [written, fragments, Fragment.text]

/-- Two ways to write a type or a method that come to the same. -/
theorem text_eq_texts (e : Event) : e.text = Fragment.texts id e.fragments := by
  cases e with
  | type t => exact t.text_eq_texts
  | method m => exact m.text_eq_texts
  | literal | var | const => simp [text, fragments, Fragment.text]

end Event

/-! ## Texts -/

theorem Sink.hom_recorder_text (style : NameStyle) :
    Hom recorder (Sink.text style)
      fun events => String.join (events.map (Event.written style)) where
  literal text events := by simp [recorder, Sink.text, Event.written]
  type t events := by simp [recorder, Sink.text, Event.written]
  var l events := by simp [recorder, Sink.text, Event.written]
  const c events := by simp [recorder, Sink.text, Event.written]
  method m events := by simp [recorder, Sink.text, Event.written]

theorem Sink.hom_recorder_append (before : List Event) :
    Hom recorder recorder (before ++ ·) where
  literal text events := by simp [recorder]
  type t events := by simp [recorder]
  var l events := by simp [recorder]
  const c events := by simp [recorder]
  method m events := by simp [recorder]

theorem Tree.print_recorder (t : Tree) (before : List Event) :
    t.print Sink.recorder before = before ++ t.events := by
  have h := t.print_hom (Sink.hom_recorder_append before) []
  rw [List.append_nil] at h
  exact h.symm

theorem Tree.text_eq_join (style : NameStyle) (t : Tree) :
    t.text style = String.join (t.events.map (Event.written style)) :=
  (t.print_hom (Sink.hom_recorder_text style) []).symm

namespace Arena

variable {a : Arena}

theorem text_eq_texts (a : Arena) (style : NameStyle) (v : Value) :
    a.text style v = Fragment.texts style.name ((a.events v).flatMap Event.fragments) := by
  rw [Fragment.texts_flatMap, text, Tree.text_eq_join]
  simp only [← Event.written_eq_texts]
  rfl

/-- The plain text of a value is that of its pieces, each displayed on its own. The quoted text is
made of the same words and names, with every name quoted and nothing else changed, so both are the
same where no name has a segment that clashes. -/
theorem text_concatenates_pieces (ha : a.WellFormed) {v : Value} (hv : v.Over a) :
    let fragments := (a.events v).flatMap Event.fragments
    a.Unfolds v (a.tree v) ∧
    a.text .plain v = String.join ((a.events v).map Event.text) ∧
    a.text .plain v = Fragment.texts id fragments ∧
    a.text .quoted v = Fragment.texts Quoting.quote fragments ∧
    ((∀ name, .name name ∈ fragments → ∀ segment ∈ Text.segments '.' name,
        ¬ Quoting.Clashes segment) →
      a.text .quoted v = a.text .plain v) := by
  intro fragments
  have hplain : a.text .plain v = Fragment.texts id fragments := a.text_eq_texts .plain v
  have hquoted : a.text .quoted v = Fragment.texts Quoting.quote fragments :=
    a.text_eq_texts .quoted v
  refine ⟨ha.unfolds_tree hv, ?_, hplain, hquoted, ?_⟩
  · rw [hplain, Fragment.texts_flatMap]
    simp only [← Event.text_eq_texts]
  · intro hnames
    rw [hquoted, hplain]
    exact Fragment.texts_congr _ fun name hname => Quoting.quote_eq_self_iff.mpr (hnames name hname)

/-- A method all of whose names clash: its own, that of its owner, and that of the class under the
dimensions of its parameter. -/
def clashingMethod : MethodRef :=
  ⟨⟨"to", "-x"⟩, "new", [.array ⟨.named ⟨"int", "C"⟩, 2⟩], .primitive .boolean⟩

/-- A call of that method on a variable, with the object for a type as its argument. -/
def clashing : Arena :=
  (empty.edit (.build (.invoke .virtual clashingMethod
    (some (.leaf (.var ⟨"class", .named .object, []⟩)))
    [.leaf (.const (.classOf (.primitive .int)))]))).2

theorem reachable_clashing : clashing.Reachable := by
  refine .edit .empty _ ?_
  decide

/-- Of the call, neither the primitive type nor the constant is quoted. In the test of its argument
no name clashes. -/
theorem text_concatenates_pieces_clashing :
    let call := Value.expr (.invoke .virtual clashingMethod (some ⟨0⟩) [⟨1⟩])
    let test := Value.expr (.instanceOf ⟨1⟩ (.named .object))
    clashing.text .plain call =
      "virtualinvoke class.<to.-x: boolean new(int.C[][])>(class \"int\")" ∧
    clashing.text .quoted call =
      "virtualinvoke 'class'.<'to'.'-x': boolean 'new'('int'.C[][])>(class \"int\")" ∧
    clashing.text .quoted test = clashing.text .plain test := by
  intro call test
  have hclashing : clashing.WellFormed := reachable_clashing.wellFormed
  obtain ⟨-, hplain, -, hquoted, -⟩ :=
    text_concatenates_pieces (v := call) hclashing (by decide)
  obtain ⟨-, -, -, -, htest⟩ := text_concatenates_pieces (v := test) hclashing (by decide)
  refine ⟨hplain.trans (by decide), hquoted.trans (by decide), htest ?_⟩
  intro name hname
  have hfragments : (clashing.events test).flatMap Event.fragments =
      [.word "class \"int\"", .word " instanceof ", .name "java.lang.Object"] := by decide
  obtain rfl : name = "java.lang.Object" := by simpa [hfragments] using hname
  decide

end Arena

end ClassAtlas
