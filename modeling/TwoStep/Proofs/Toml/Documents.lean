import Mathlib.Data.List.Nodup
import TwoStep.Toml.Parser

/-!
# Documents of headers and fields

A document that consists of blocks, each a header in single brackets with fields
below it, is read as the table of these blocks.

The reader goes from line to line with what it has built so far.  So there is one
lemma for each kind of line: a blank one leaves everything as it is
(`linesPart_blank`), a header that is new opens an empty table at the end
(`linesPart_header`), and a field whose key is new goes to the end of the newest
table (`linesPart_field`).  By induction on the fields, and then on the blocks, a
document that starts behind `root` adds its tables to `root` in order
(`linesPart_blocks`).  Each line takes one unit of fuel and has at least one
character, so the length of the text is enough (`parse_document`).
-/

namespace TwoStep.Toml

/-- Whether a key is written without quotes. -/
def isKey (key : String) : Bool := !key.toList.isEmpty && key.toList.all isKeyChar

/-- A line that sets a key to a value, in a text that is read as that value. -/
structure Field where
  key : String
  text : String
  value : Toml
  plain : isKey key = true
  reads : ∀ rest, scalarPart (text.toList ++ '\n' :: rest) = some (value, '\n' :: rest)

/-- A header and the fields below it, with different keys. -/
structure Block where
  name : String
  fields : List Field
  plain : isKey name = true
  distinct : (fields.map Field.key).Nodup

/-- The line of a field. -/
def Field.line (f : Field) : List Char :=
  f.key.toList ++ ' ' :: '=' :: ' ' :: (f.text.toList ++ ['\n'])

/-- The lines of a block. -/
def Block.lines (b : Block) : List Char :=
  '[' :: (b.name.toList ++ ']' :: '\n' :: b.fields.flatMap Field.line)

/-- Blocks with a blank line between two of them. -/
def document (bs : List Block) : List Char := ['\n'].intercalate (bs.map Block.lines)

/-- The entry that a field makes in its table. -/
def Field.entry (f : Field) : String × Node := (f.key, .leaf f.value)

/-- The entry that a block makes in the document. -/
def Block.entry (b : Block) : String × Node :=
  (b.name, .table false false (b.fields.map Field.entry))

/-! ## Keys and values in a line -/

theorem skipSpaces_cons {c : Char} (h : isSpace c = false) (cs : List Char) :
    skipSpaces (c :: cs) = c :: cs := by
  rw [skipSpaces, List.dropWhile_cons, h]
  rfl

theorem ne_of_isKeyChar {c x : Char} (hc : isKeyChar c = true) (hx : isKeyChar x = false) :
    c ≠ x := by
  rintro rfl
  rw [hc] at hx
  contradiction

theorem isKey_iff {key : String} :
    isKey key = true ↔ key.toList ≠ [] ∧ ∀ c ∈ key.toList, isKeyChar c = true := by
  simp [isKey]

theorem exists_cons_of_isKey {key : String} (h : isKey key = true) :
    ∃ c cs, key.toList = c :: cs ∧ isKeyChar c = true ∧ isSpace c = false := by
  obtain ⟨hne, hkey⟩ := isKey_iff.mp h
  obtain ⟨c, cs, hcs⟩ := List.exists_cons_of_ne_nil hne
  have hc : isKeyChar c = true := hkey c (by simp [hcs])
  have hspace : isSpace c = false := by
    simp [isSpace, ne_of_isKeyChar hc (x := ' ') rfl, ne_of_isKeyChar hc (x := '\t') rfl]
  exact ⟨c, cs, hcs, hc, hspace⟩

/-- A key is read up to the first character that cannot be in it. -/
theorem keyPart_append {key : String} (hkey : isKey key = true) {rest : List Char}
    (hend : ∀ c ∈ rest.head?, isKeyChar c = false)
    (hpoint : (skipSpaces rest).head? ≠ some '.') :
    keyPart (key.toList ++ rest) = some ([key], skipSpaces rest) := by
  obtain ⟨c, cs, hcs, hc, hspace⟩ := exists_cons_of_isKey hkey
  obtain ⟨hne, hchars⟩ := isKey_iff.mp hkey
  have htake : (key.toList ++ rest).takeWhile isKeyChar = key.toList := by
    rw [List.takeWhile_append_of_pos hchars]
    cases rest with
    | nil => simp
    | cons d rest => simp [hend d rfl]
  have hdrop : (key.toList ++ rest).dropWhile isKeyChar = rest := by
    rw [List.dropWhile_append_of_pos hchars]
    cases rest with
    | nil => rfl
    | cons d rest => simp [hend d rfl]
  have hplain : ∀ q t, isKeyChar q = false → key.toList ++ rest ≠ q :: t := by
    intro q t hq h
    rw [hcs, List.cons_append] at h
    exact ne_of_isKeyChar hc hq (List.cons.inj h).1
  have hsimple : simpleKey (key.toList ++ rest) = some (key, rest) := by
    rw [simpleKey.eq_3 _ (fun t => hplain '"' t rfl) (fun t => hplain '\'' t rfl), htake, hdrop]
    split
    · exact absurd ‹_› hne
    · rw [String.ofList_toList]
  have hskip : skipSpaces (key.toList ++ rest) = key.toList ++ rest := by
    rw [hcs, List.cons_append, skipSpaces_cons hspace]
  rw [keyPart, depthLimit, dottedKey, hskip, hsimple]
  simp only [Option.bind_eq_bind, Option.bind_some]
  split
  · simp_all
  · rfl

/-- What is read as a value without parts is read as a value. -/
theorem valuePart_of_scalarPart {cs : List Char} {r : Toml × List Char}
    (h : scalarPart cs = some r) :
    skipSpaces cs = cs ∧ ∀ depth fuel, valuePart depth (fuel + 1) cs = some r := by
  cases cs with
  | nil => simp [scalarPart] at h
  | cons c cs =>
      have hne : ∀ x, scalarPart (x :: cs) = none → c ≠ x := by
        rintro x hx rfl
        rw [hx] at h
        contradiction
      have hspace : isSpace c = false := by
        simp [isSpace, hne ' ' rfl, hne '\t' rfl]
      refine ⟨skipSpaces_cons hspace cs, fun depth fuel => ?_⟩
      have hbracket := hne '[' rfl
      have hbrace := hne '\x7b' rfl
      simp [valuePart, hbracket, hbrace, h]

/-! ## Lines -/

section Lines

variable {p p' : Progress} {cs rest : List Char}

theorem linesPart_blank (fuel : Nat) (p : Progress) (cs : List Char) :
    linesPart fuel p ('\n' :: cs) = linesPart fuel p cs := by
  cases fuel with
  | zero => rfl
  | succ fuel => rfl

/-- A line with content is taken as it is; `c` is its first character. -/
theorem linesPart_of_linePart {c : Char} (hspace : isSpace c = false)
    (hc : c ≠ '#' ∧ c ≠ '\n' ∧ c ≠ '\r') (h : linePart p (c :: cs) = some (p', rest)) (fuel : Nat) :
    linesPart (fuel + 1) p (c :: cs) = linesPart fuel p' rest := by
  have hskip : skipLines (c :: cs).length (c :: cs) = c :: cs := by
    simp [skipLines, skipSpaces_cons hspace, lineEnd?, hc]
  rw [linesPart, hskip]
  simp [h]

theorem linesPart_header {name : String} (hname : isKey name = true)
    (hnew : p.root.lookup name = none) (fuel : Nat) (rest : List Char) :
    linesPart (fuel + 1) p ('[' :: (name.toList ++ ']' :: '\n' :: rest)) =
      linesPart fuel ⟨p.root ++ [(name, .table false false [])], [name]⟩ rest := by
  refine linesPart_of_linePart rfl (by decide) ?_ fuel
  obtain ⟨c, cs, hcs, hc, -⟩ := exists_cons_of_isKey hname
  have hkey : keyPart (name.toList ++ ']' :: '\n' :: rest) = some ([name], ']' :: '\n' :: rest) :=
    keyPart_append hname (by simp [isKeyChar]) (by simp [skipSpaces, isSpace])
  have hopen : p.root.openTable [name] = some (p.root ++ [(name, .table false false [])]) := by
    simp [Entries.openTable, Entries.splitLast, Entries.within, hnew]
  have hsingle := ne_of_isKeyChar hc (x := '[') rfl
  have hend : endOfLine ('\n' :: rest) = some rest := rfl
  rw [hcs, List.cons_append] at hkey ⊢
  simp [linePart, hsingle, hkey, hopen, behind, hend]

theorem set_append_last {root : Entries} {name : String} (hnew : root.lookup name = none)
    (old new : Node) : (root ++ [(name, old)] : Entries).set name new = root ++ [(name, new)] := by
  induction root with
  | nil => simp [Entries.set]
  | cons e root ih =>
      obtain ⟨k, n⟩ := e
      by_cases hk : k = name
      · simp [hk] at hnew
      · rw [List.lookup_cons, beq_false_of_ne (Ne.symm hk)] at hnew
        simp [Entries.set, hk, ih hnew]

/-- A field goes to the end of the newest table. -/
theorem insertUnder_last {root es : Entries} {name key : String}
    (hname : root.lookup name = none) (hkey : es.lookup key = none) (v : Toml) :
    Entries.insertUnder (root ++ [(name, .table false false es)]) [name] [key] v =
      some (root ++ [(name, .table false false (es ++ [(key, .leaf v)]))]) := by
  have hlookup : (root ++ [(name, Node.table false false es)]).lookup name =
      some (.table false false es) := by
    simp [List.lookup_append, hname]
  simp [Entries.insertUnder, Entries.within, Entries.insert, Entries.splitLast, hlookup, hkey,
    set_append_last hname]

theorem linesPart_field {root es : Entries} {name : String} (f : Field)
    (hname : root.lookup name = none) (hnew : es.lookup f.key = none) (fuel : Nat)
    (rest : List Char) :
    linesPart (fuel + 1) ⟨root ++ [(name, .table false false es)], [name]⟩ (f.line ++ rest) =
      linesPart fuel ⟨root ++ [(name, .table false false (es ++ [f.entry]))], [name]⟩ rest := by
  obtain ⟨c, cs, hcs, hc, hspace⟩ := exists_cons_of_isKey f.plain
  have hkey : keyPart (f.key.toList ++ ' ' :: '=' :: ' ' :: (f.text.toList ++ '\n' :: rest)) =
      some ([f.key], '=' :: ' ' :: (f.text.toList ++ '\n' :: rest)) :=
    keyPart_append f.plain (by simp [isKeyChar]) (by simp [skipSpaces, isSpace])
  obtain ⟨hspaces, hvalue⟩ := valuePart_of_scalarPart (f.reads rest)
  have hskip : skipSpaces (' ' :: (f.text.toList ++ '\n' :: rest)) =
      f.text.toList ++ '\n' :: rest := hspaces
  have hcontent : c ≠ '#' ∧ c ≠ '\n' ∧ c ≠ '\r' :=
    ⟨ne_of_isKeyChar hc rfl, ne_of_isKeyChar hc rfl, ne_of_isKeyChar hc rfl⟩
  have hline : f.line ++ rest =
      c :: (cs ++ ' ' :: '=' :: ' ' :: (f.text.toList ++ '\n' :: rest)) := by
    simp [Field.line, hcs]
  have hbracket := ne_of_isKeyChar hc (x := '[') rfl
  have hend : endOfLine ('\n' :: rest) = some rest := rfl
  rw [hcs, List.cons_append] at hkey
  rw [hline]
  refine linesPart_of_linePart hspace hcontent ?_ fuel
  simp [linePart, hbracket, hkey, behind, hskip, hvalue, insertUnder_last hname hnew, hend,
    Field.entry]

end Lines

/-! ## Blocks and documents -/

/-- A key that is different from all before it and behind it is new. -/
theorem lookup_eq_none_of_nodup {es : Entries} {key : String} {keys : List String}
    (h : (es.map Prod.fst ++ key :: keys).Nodup) : es.lookup key = none := by
  have hkey := (List.nodup_cons.mp (List.nodup_middle.mp h)).1
  rw [List.lookup_eq_none_iff]
  rintro e he
  refine bne_iff_ne.mpr ?_
  rintro rfl
  exact hkey (List.mem_append_left _ (List.mem_map_of_mem he))

/-- The fields of a block go into the newest table, in order. -/
theorem linesPart_fields {root : Entries} {name : String} (hname : root.lookup name = none)
    (fs : List Field) {es : Entries} (hnew : (es.map Prod.fst ++ fs.map Field.key).Nodup)
    (fuel : Nat) (rest : List Char) :
    linesPart (fuel + fs.length) ⟨root ++ [(name, .table false false es)], [name]⟩
        (fs.flatMap Field.line ++ rest) =
      linesPart fuel ⟨root ++ [(name, .table false false (es ++ fs.map Field.entry))], [name]⟩
        rest := by
  induction fs generalizing es with
  | nil => simp
  | cons f fs ih =>
      have hrest : ((es ++ [f.entry]).map Prod.fst ++ fs.map Field.key).Nodup := by
        simpa [Field.entry] using hnew
      rw [List.flatMap_cons, List.append_assoc, List.length_cons, ← Nat.add_assoc,
        linesPart_field f hname (lookup_eq_none_of_nodup hnew), ih hrest]
      simp

/-- The number of lines with content. -/
def contentLines : List Block → Nat
  | [] => 0
  | b :: bs => b.fields.length + 1 + contentLines bs

/-- Blocks with new names add their tables, in order. -/
theorem linesPart_blocks (bs : List Block) {p : Progress}
    (hnew : (p.root.map Prod.fst ++ bs.map Block.name).Nodup) (fuel : Nat) :
    (linesPart (fuel + 1 + contentLines bs) p (bs.flatMap fun b => '\n' :: b.lines)).map
      Progress.root = some (p.root ++ bs.map Block.entry) := by
  induction bs generalizing p with
  | nil => simp [contentLines, linesPart, skipLines]
  | cons b bs ih =>
      have hname := lookup_eq_none_of_nodup hnew
      have hrest : ((p.root ++ [b.entry]).map Prod.fst ++ bs.map Block.name).Nodup := by
        simpa [Block.entry] using hnew
      have hfuel : fuel + 1 + contentLines (b :: bs) =
          fuel + 1 + contentLines bs + b.fields.length + 1 := by
        rw [contentLines]
        omega
      have hlines : b.lines ++ (bs.flatMap fun b => '\n' :: b.lines) =
          '[' :: (b.name.toList ++ ']' :: '\n' :: (b.fields.flatMap Field.line ++
            bs.flatMap fun b => '\n' :: b.lines)) := by
        simp [Block.lines]
      rw [List.flatMap_cons, List.cons_append, linesPart_blank, hfuel, hlines,
        linesPart_header b.plain hname, linesPart_fields hname b.fields (by simpa using b.distinct),
        List.nil_append]
      change (linesPart _ ⟨p.root ++ [b.entry], [b.name]⟩ _).map Progress.root = _
      rw [ih hrest, List.map_cons, List.append_assoc, List.singleton_append]

theorem Block.length_lines (b : Block) : b.fields.length + 1 ≤ b.lines.length := by
  have hfields : b.fields.length ≤ (b.fields.flatMap Field.line).length := by
    induction b.fields with
    | nil => exact Nat.le_refl 0
    | cons f fs ih =>
        simp only [List.flatMap_cons, List.length_append, List.length_cons, Field.line]
        omega
  simp only [Block.lines, List.length_cons, List.length_append]
  omega

theorem document_cons (b : Block) (bs : List Block) :
    document (b :: bs) = b.lines ++ bs.flatMap fun b => '\n' :: b.lines := by
  induction bs generalizing b with
  | nil => simp [document, List.intercalate]
  | cons b' bs ih =>
      have h := ih b'
      simp only [document, List.intercalate, List.map_cons] at h ⊢
      simp [h]

theorem contentLines_le (bs : List Block) : contentLines bs ≤ (document bs).length := by
  have hlines (bs : List Block) :
      contentLines bs ≤ (bs.flatMap fun b => '\n' :: b.lines).length := by
    induction bs with
    | nil => exact Nat.le_refl 0
    | cons b bs ih =>
        have hblock := b.length_lines
        rw [contentLines, List.flatMap_cons, List.length_append, List.length_cons]
        omega
  cases bs with
  | nil => exact Nat.le_refl 0
  | cons b bs =>
      have hblock := b.length_lines
      have hmore := hlines bs
      rw [contentLines, document_cons, List.length_append]
      omega

theorem finishEntries_eq_map (es : Entries) :
    finishEntries es = es.map fun e => (e.1, e.2.toToml) := by
  induction es with
  | nil => rfl
  | cons e es ih => rw [finishEntries, ih, List.map_cons]

/-- The value of a block: a table of the values of its fields. -/
def Block.value (b : Block) : Toml := .table (b.fields.map fun f => (f.key, f.value))

theorem Block.toToml_entry (b : Block) : (b.entry.1, b.entry.2.toToml) = (b.name, b.value) := by
  simp [Block.entry, Block.value, Node.toToml, finishEntries_eq_map, Field.entry]

/-- A document of blocks with different names is read as the table of them. -/
theorem parse_document {bs : List Block} (hnames : (bs.map Block.name).Nodup) :
    parse (String.ofList (document bs)) = some (.table (bs.map fun b => (b.name, b.value))) := by
  obtain ⟨k, hk⟩ := Nat.exists_eq_add_of_le (contentLines_le bs)
  have hroot := linesPart_blocks bs (p := {}) (by simpa using hnames) k
  have hblank : linesPart (k + 1 + contentLines bs) {} (bs.flatMap fun b => '\n' :: b.lines) =
      linesPart (k + 1 + contentLines bs) {} (document bs) := by
    cases bs with
    | nil => rfl
    | cons b bs => rw [List.flatMap_cons, List.cons_append, linesPart_blank, document_cons]
  have hfuel : (document bs).length + 1 = k + 1 + contentLines bs := by omega
  obtain ⟨p, hp, hroot⟩ := Option.map_eq_some_iff.mp hroot
  rw [hblank] at hp
  have hvalues : finishEntries p.root = bs.map fun b => (b.name, b.value) := by
    rw [hroot, List.nil_append, finishEntries_eq_map, List.map_map]
    exact List.map_congr_left fun b _ => b.toToml_entry
  rw [parse, String.toList_ofList, hfuel, hp, Option.map_some, hvalues]

end TwoStep.Toml
