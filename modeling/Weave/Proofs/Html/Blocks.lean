import Weave.Proofs.Html.Markup
import Weave.Proofs.Text.Cutting

/-!
# Blocks as markup

A paragraph, a listing or a table is written as markup of one shape for its kind, with its texts in their
places. The markup can be read, and the block can be told from it: no text leaves its place.
-/

set_option autoImplicit false

namespace Weave

def Block.isPlain : Block → Bool
  | .code _ _ | .paragraph _ | .table _ _ => true
  | _ => false

namespace Html

/-! ### The markup of a block -/

def cellsMarkup (name : String) : List Text → Markup
  | [] => .text []
  | t :: ts => .element [] name.toList none (.text t) (cellsMarkup name ts)

def rowsMarkup (name : String) : List (List Text) → Markup
  | [] => .text ['\n']
  | r :: rs => .element ['\n'] "tr".toList none (cellsMarkup name r) (rowsMarkup name rs)

def tableMarkup (headers : List Text) (rows : List (List Text)) : Markup :=
  .element [] "table".toList none
    (.element ['\n'] "thead".toList none (rowsMarkup "th" [headers])
      (.element ['\n'] "tbody".toList none (rowsMarkup "td" rows) (.text ['\n'])))
    (.text [])

def codeMarkup (text lang : Text) : Markup :=
  if lang.isEmpty then
    .element [] "pre".toList (some "output".toList)
      (.element [] "code".toList none (.text text) (.text [])) (.text [])
  else
    .element [] "pre".toList none
      (.element [] "code".toList (some ("language-".toList ++ lang)) (.text text) (.text [])) (.text [])

def paragraphMarkup (text : Text) : Markup := .element [] "p".toList none (.text text) (.text [])

def markup : Block → Markup
  | .code text lang => codeMarkup text lang
  | .paragraph text => paragraphMarkup text
  | .table headers rows => tableMarkup headers rows
  | _ => .text []

/-! ### The block of a markup -/

def cells? (name : String) : Markup → Option (List Text)
  | .text t => if t = [] then some [] else none
  | .element before n cls (.text t) rest =>
    if before = [] ∧ n = name.toList ∧ cls = none then (cells? name rest).map (t :: ·) else none
  | _ => none

def rows? (name : String) : Markup → Option (List (List Text))
  | .text t => if t = ['\n'] then some [] else none
  | .element before n cls inner rest =>
    if before = ['\n'] ∧ n = "tr".toList ∧ cls = none then
      match cells? name inner, rows? name rest with
      | some r, some rs => some (r :: rs)
      | _, _ => none
    else none

def table? : Markup → Option Block
  | .element [] table none
      (.element ['\n'] thead none head (.element ['\n'] tbody none body (.text ['\n']))) (.text []) =>
    if table = "table".toList ∧ thead = "thead".toList ∧ tbody = "tbody".toList then
      match rows? "th" head, rows? "td" body with
      | some [headers], some rows => some (.table headers rows)
      | _, _ => none
    else none
  | _ => none

def code? : Markup → Option Block
  | .element [] pre kind (.element [] code lang (.text t) (.text [])) (.text []) =>
    if pre = "pre".toList ∧ code = "code".toList then
      match kind, lang with
      | some k, none => if k = "output".toList then some (.code t []) else none
      | none, some l => (Text.after? "language-".toList l).map (.code t)
      | _, _ => none
    else none
  | _ => none

def paragraph? : Markup → Option Block
  | .element [] p none (.text t) (.text []) => if p = "p".toList then some (.paragraph t) else none
  | _ => none

/-- The block that a text of HTML shows, if it shows one. -/
def readBlock? (t : Text) : Option Block :=
  (Markup.read? t).bind fun m => (paragraph? m).or ((code? m).or (table? m))

/-! ### A block is its markup -/

theorem write_cellsMarkup (name : String) (ts : List Text) :
    (cellsMarkup name ts).write = ts.flatMap fun t => enclose name (escape t) := by
  induction ts with
  | nil => rfl
  | cons t ts ih => simp [cellsMarkup, Markup.write, ih, enclose, classAttribute, escape]

theorem write_rowsMarkup (name : String) (rs : List (List Text)) :
    (rowsMarkup name rs).write = '\n' :: rs.flatMap fun r => cells name r ++ ['\n'] := by
  induction rs with
  | nil => rfl
  | cons r rs ih =>
    have hline : escape ['\n'] = ['\n'] := rfl
    simp [rowsMarkup, Markup.write, ih, write_cellsMarkup, cells, enclose, classAttribute, hline]

theorem escape_append (t u : Text) : escape (t ++ u) = escape t ++ escape u := List.flatMap_append

theorem write_codeMarkup (text lang : Text) : (codeMarkup text lang).write = code text lang := by
  have hnil : escape [] = [] := rfl
  have houtput : escape "output".toList = "output".toList := by decide
  have hlead : escape "language-".toList = "language-".toList := by decide
  unfold codeMarkup code
  cases lang with
  | nil =>
    simp only [List.isEmpty_nil, if_true, Markup.write, classAttribute, hnil, houtput]
    simp
  | cons c lang =>
    simp only [List.isEmpty_cons, Bool.false_eq_true, if_false, Markup.write, classAttribute, hnil,
      escape_append, hlead]
    simp

theorem write_paragraphMarkup (text : Text) :
    (paragraphMarkup text).write = enclose "p" (escape text) := by
  have hnil : escape [] = [] := rfl
  simp [paragraphMarkup, Markup.write, classAttribute, enclose, hnil]

theorem write_tableMarkup (headers : List Text) (rows : List (List Text)) :
    (tableMarkup headers rows).write = table headers rows := by
  have hnil : escape [] = [] := rfl
  have hline : escape ['\n'] = ['\n'] := rfl
  unfold tableMarkup table
  simp only [Markup.write, classAttribute, write_rowsMarkup, hnil, hline]
  simp

theorem block_eq_write {b : Block} (h : b.isPlain = true) : block b = .ok (markup b).write := by
  cases b with
  | code text lang => rw [markup, write_codeMarkup, block, blockWith]
  | paragraph text => rw [markup, write_paragraphMarkup, block, blockWith]
  | table headers rows => rw [markup, write_tableMarkup, block, blockWith]
  | prose text => cases h
  | raw text kind => cases h
  | foreign text => cases h

theorem named_cellsMarkup {name : String} (h : IsTagName name.toList) (ts : List Text) :
    (cellsMarkup name ts).Named := by
  induction ts with
  | nil => trivial
  | cons t ts ih => exact ⟨h, trivial, ih⟩

theorem named_rowsMarkup {name : String} (h : IsTagName name.toList) (rs : List (List Text)) :
    (rowsMarkup name rs).Named := by
  induction rs with
  | nil => trivial
  | cons r rs ih => exact ⟨by decide, named_cellsMarkup h r, ih⟩

theorem named_markup (b : Block) : (markup b).Named := by
  cases b with
  | code text lang =>
    rw [markup, codeMarkup]
    split
    · exact ⟨by decide, ⟨by decide, trivial, trivial⟩, trivial⟩
    · exact ⟨by decide, ⟨by decide, trivial, trivial⟩, trivial⟩
  | paragraph text => exact ⟨by decide, trivial, trivial⟩
  | table headers rows =>
    have hhead : (rowsMarkup "th" [headers]).Named := named_rowsMarkup (by decide) [headers]
    have hbody : (rowsMarkup "td" rows).Named := named_rowsMarkup (by decide) rows
    exact ⟨by decide, ⟨by decide, hhead, by decide, hbody, trivial⟩, trivial⟩
  | prose text => trivial
  | raw text kind => trivial
  | foreign text => trivial

/-! ### Reading a block -/

theorem cells?_cellsMarkup (name : String) (ts : List Text) : cells? name (cellsMarkup name ts) = some ts := by
  induction ts with
  | nil => rfl
  | cons t ts ih => simp [cellsMarkup, cells?, ih]

theorem rows?_rowsMarkup (name : String) (rs : List (List Text)) :
    rows? name (rowsMarkup name rs) = some rs := by
  induction rs with
  | nil => rfl
  | cons r rs ih => simp [rowsMarkup, rows?, cells?_cellsMarkup, ih]

theorem code?_codeMarkup (text lang : Text) : code? (codeMarkup text lang) = some (.code text lang) := by
  cases lang with
  | nil => rfl
  | cons c lang =>
    have hlead := Text.after?_append "language-".toList (c :: lang)
    simp only [codeMarkup, List.isEmpty_cons, Bool.false_eq_true, if_false, code?, and_self, if_true,
      hlead, Option.map_some]

theorem paragraph?_codeMarkup (text lang : Text) : paragraph? (codeMarkup text lang) = none := by
  unfold codeMarkup
  split <;> rfl

theorem table?_tableMarkup (headers : List Text) (rows : List (List Text)) :
    table? (tableMarkup headers rows) = some (.table headers rows) := by
  simp [tableMarkup, table?, rows?_rowsMarkup]

theorem block_of_markup {b : Block} (h : b.isPlain = true) :
    (paragraph? (markup b)).or ((code? (markup b)).or (table? (markup b))) = some b := by
  cases b with
  | code text lang =>
    rw [markup, paragraph?_codeMarkup, code?_codeMarkup]
    rfl
  | paragraph text => rfl
  | table headers rows =>
    have hcode : code? (tableMarkup headers rows) = none := rfl
    have hparagraph : paragraph? (tableMarkup headers rows) = none := rfl
    rw [markup, hparagraph, hcode, table?_tableMarkup]
    rfl
  | prose text => cases h
  | raw text kind => cases h
  | foreign text => cases h

theorem readBlock?_write {b : Block} (h : b.isPlain = true) : readBlock? (markup b).write = some b := by
  rw [readBlock?, read?_write (named_markup b), Option.bind_some, block_of_markup h]

/-! ### The tags of a block -/

/-- The number of elements that a block is written with: they depend on its kind and, for a table, on the
numbers of rows and cells. -/
def elementCount : Block → Nat
  | .code _ _ => 2
  | .paragraph _ => 1
  | .table headers rows => 3 + (headers.length + 1) + (rows.length + rows.flatten.length)
  | _ => 0

def classCount : Block → Nat
  | .code _ _ => 1
  | _ => 0

theorem size_cellsMarkup (name : String) (ts : List Text) :
    (cellsMarkup name ts).size = ts.length ∧ (cellsMarkup name ts).classes = 0 := by
  induction ts with
  | nil => exact ⟨rfl, rfl⟩
  | cons t ts ih => simp [cellsMarkup, Markup.size, Markup.classes, ih]

theorem size_rowsMarkup (name : String) (rs : List (List Text)) :
    (rowsMarkup name rs).size = rs.length + rs.flatten.length ∧ (rowsMarkup name rs).classes = 0 := by
  induction rs with
  | nil => exact ⟨rfl, rfl⟩
  | cons r rs ih =>
    have hcells := size_cellsMarkup name r
    constructor
    · simp only [rowsMarkup, Markup.size, hcells.1, ih.1, List.length_cons, List.flatten_cons,
        List.length_append]
      omega
    · simp [rowsMarkup, Markup.classes, hcells.2, ih.2]

theorem size_markup (b : Block) :
    (markup b).size = elementCount b ∧ (markup b).classes = classCount b := by
  cases b with
  | code text lang =>
    rw [markup, codeMarkup]
    split <;> exact ⟨rfl, rfl⟩
  | table headers rows =>
    have hhead := size_rowsMarkup "th" [headers]
    have hbody := size_rowsMarkup "td" rows
    constructor
    · simp only [markup, tableMarkup, Markup.size, hhead.1, hbody.1, elementCount, List.length_cons,
        List.length_nil, List.flatten_cons, List.flatten_nil, List.append_nil]
      omega
    · simp [markup, tableMarkup, Markup.classes, hhead.2, hbody.2, classCount]
  | paragraph text => exact ⟨rfl, rfl⟩
  | prose text => exact ⟨rfl, rfl⟩
  | raw text kind => exact ⟨rfl, rfl⟩
  | foreign text => exact ⟨rfl, rfl⟩

/-- Paragraphs, listings and tables can be read from what is written for them, whatever their texts are,
so that no two are written alike. There are two `<` and two `>` for each element that the block's shape
asks for and two quotation marks for its class, and none in any text, cell, header or language. -/
theorem block_readable {b : Block} (h : b.isPlain = true) :
    ∃ t, block b = .ok t ∧ readBlock? t = some b ∧
      (∀ b', b'.isPlain = true → block b' = .ok t → b' = b) ∧
      t.count '<' = 2 * elementCount b ∧ t.count '>' = 2 * elementCount b ∧
      t.count '"' = 2 * classCount b := by
  have hread := readBlock?_write h
  obtain ⟨hsize, hclasses⟩ := size_markup b
  refine ⟨(markup b).write, block_eq_write h, hread, ?_, ?_, ?_, ?_⟩
  · intro b' h' heq
    have hread' := readBlock?_write h'
    rw [block_eq_write h', Except.ok.injEq] at heq
    rw [heq, hread] at hread'
    exact (Option.some.inj hread').symm
  · rw [count_write (named_markup b) (.inl rfl), hsize]
  · rw [count_write (named_markup b) (.inr rfl), hsize]
  · rw [count_quote_write (named_markup b), hclasses]

def raggedTable : Block :=
  .table ["</th>".toList, []] [["<td>".toList, "&lt;".toList, ['"']], [], [['\n']]]

theorem block_readable_raggedTable :
    raggedTable.isPlain = true ∧ ∃ t, block raggedTable = .ok t ∧ readBlock? t = some raggedTable ∧
      t.count '<' = 26 ∧ t.count '>' = 26 ∧ t.count '"' = 0 := by
  have hplain : raggedTable.isPlain = true := rfl
  obtain ⟨t, hblock, hread, -, hopen, hclose, hquote⟩ := block_readable hplain
  exact ⟨hplain, t, hblock, hread, hopen, hclose, hquote⟩

end Html

end Weave
