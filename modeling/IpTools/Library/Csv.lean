import IpTools.Library.CharClass

/-!
# Comma-separated values

A reader of comma-separated values in the format of RFC 4180, which takes a line feed alone for the
end of a record as well, and the texts that it reads back: fields that have no special character and
quoted fields, joined to records.
-/

namespace Csv

open CharClass

/-- Where a reader stands in a field. -/
inductive Mode where
  | start
  | raw
  | quoted
  /-- After a quote within quotes: the field has ended, or the quote is the first of two. -/
  | closed
  /-- After the CR of a line break. -/
  | ended
deriving DecidableEq, Repr

structure Reader where
  mode : Mode
  field : List Char
  record : List String
  records : List (List String)
deriving DecidableEq, Repr

def Reader.endField (r : Reader) : Reader :=
  ⟨.start, [], r.record ++ [String.ofList r.field], r.records⟩

def Reader.endRecord (r : Reader) : Reader :=
  ⟨.start, [], [], r.records ++ [r.record ++ [String.ofList r.field]]⟩

/-- The end of a field, or of the record with it. -/
def Reader.delimit (r : Reader) (c : Char) : Option Reader :=
  if c = ',' then some r.endField
  else if c = '\n' then some r.endRecord
  else if c = '\r' then some { r with mode := .ended }
  else none

def Reader.add (r : Reader) (mode : Mode) (c : Char) : Reader :=
  { r with mode := mode, field := r.field ++ [c] }

def Reader.step (r : Reader) (c : Char) : Option Reader :=
  match r.mode with
  | .start =>
    if c = '"' then some { r with mode := .quoted } else (r.delimit c).or (some (r.add .raw c))
  | .raw => if c = '"' then none else (r.delimit c).or (some (r.add .raw c))
  | .quoted => if c = '"' then some { r with mode := .closed } else some (r.add .quoted c)
  | .closed => if c = '"' then some (r.add .quoted c) else r.delimit c
  | .ended => if c = '\n' then some r.endRecord else none

def Reader.run (r : Reader) (s : List Char) : Option Reader := s.foldlM Reader.step r

/-- The records of a text; the last one may lack its line break. -/
def read (s : List Char) : Option (List (List String)) := do
  let r ← Reader.run ⟨.start, [], [], []⟩ s
  match r.mode with
  | .start => some (if r.record.isEmpty then r.records else r.endRecord.records)
  | .raw | .closed => some r.endRecord.records
  | .quoted | .ended => none

example : read "a,\"b\"\"\r\n\",\r\nc,,".toList = some [["a", "b\"\r\n", ""], ["c", "", ""]] := by
  decide

example : read "a\"b".toList = none := by decide

lemma run_append (r : Reader) (s t : List Char) : r.run (s ++ t) = (r.run s).bind (·.run t) :=
  List.foldlM_append

lemma run_cons (r : Reader) (c : Char) (s : List Char) :
    r.run (c :: s) = (r.step c).bind (·.run s) :=
  List.foldlM_cons

/-- The characters of a field without quotes. -/
def IsRaw (c : Char) : Prop := c ∉ [',', '"', '\r', '\n']

instance : DecidablePred IsRaw := fun c => inferInstanceAs (Decidable (c ∉ [',', '"', '\r', '\n']))

def double (c : Char) : List Char := if c = '"' then ['"', '"'] else [c]

/-- A text in quotes, with its own quotes doubled. -/
def quote (s : String) : String := "\"" ++ String.ofList (s.toList.flatMap double) ++ "\""

/-- The texts that stand for a value. -/
inductive Writes : String → String → Prop where
  | raw {s : String} : All IsRaw s → Writes s s
  | quoted (s : String) : Writes (quote s) s

section Fields

variable (record : List String) (records : List (List String))

lemma run_raw {l : List Char} (h : ∀ c ∈ l, IsRaw c) {mode : Mode} (hmode : mode ∈ [.start, .raw])
    (field : List Char) : ∃ mode' ∈ [Mode.start, .raw],
      Reader.run ⟨mode, field, record, records⟩ l = some ⟨mode', field ++ l, record, records⟩ := by
  induction l generalizing mode field with
  | nil => exact ⟨mode, hmode, by rw [List.append_nil]; rfl⟩
  | cons c l ih =>
    have hc := h c List.mem_cons_self
    simp only [IsRaw, List.mem_cons, List.not_mem_nil, or_false, not_or] at hc
    have hstep : Reader.step ⟨mode, field, record, records⟩ c =
        some ⟨.raw, field ++ [c], record, records⟩ := by
      rcases List.mem_cons.mp hmode with rfl | hmode
      · simp [Reader.step, Reader.delimit, Reader.add, hc]
      · obtain rfl := List.mem_singleton.mp hmode
        simp [Reader.step, Reader.delimit, Reader.add, hc]
    obtain ⟨mode', hmode', hrun⟩ := ih (fun d hd => h d (List.mem_cons_of_mem c hd))
      (show Mode.raw ∈ [.start, .raw] by decide) (field ++ [c])
    refine ⟨mode', hmode', ?_⟩
    rw [run_cons, hstep, Option.bind_some, hrun, List.append_assoc]
    rfl

lemma run_doubled (l field : List Char) :
    Reader.run ⟨.quoted, field, record, records⟩ (l.flatMap double) =
      some ⟨.quoted, field ++ l, record, records⟩ := by
  induction l generalizing field with
  | nil =>
    rw [List.append_nil]
    rfl
  | cons c l ih =>
    have hdouble : Reader.run ⟨.quoted, field, record, records⟩ (double c) =
        some ⟨.quoted, field ++ [c], record, records⟩ := by
      unfold double
      by_cases hc : c = '"'
      · rw [if_pos hc, hc]
        rfl
      · have hstep : Reader.step ⟨.quoted, field, record, records⟩ c =
            some ⟨.quoted, field ++ [c], record, records⟩ := if_neg hc
        rw [if_neg hc, run_cons, hstep]
        rfl
    rw [List.flatMap_cons, run_append, hdouble, Option.bind_some, ih, List.append_assoc]
    rfl

/-- Between delimiters a text that stands for a value is read as that value. -/
lemma run_field {text value : String} (h : Writes text value) :
    ∃ mode ∈ [Mode.start, .raw, .closed],
      Reader.run ⟨.start, [], record, records⟩ text.toList =
        some ⟨mode, value.toList, record, records⟩ := by
  cases h with
  | raw hraw =>
    obtain ⟨mode, hmode, hrun⟩ :=
      run_raw record records hraw (show Mode.start ∈ [.start, .raw] by decide) []
    refine ⟨mode, ?_, hrun⟩
    rcases List.mem_cons.mp hmode with rfl | hmode
    · decide
    · rw [List.mem_singleton.mp hmode]
      decide
  | quoted =>
    refine ⟨.closed, by decide, ?_⟩
    have hopen : Reader.run ⟨.start, [], record, records⟩ ['"'] =
        some ⟨.quoted, [], record, records⟩ := rfl
    rw [quote, String.toList_append, String.toList_append, show "\"".toList = ['"'] from rfl,
      String.toList_ofList, run_append, run_append, hopen, Option.bind_some, run_doubled,
      Option.bind_some]
    rfl

lemma run_comma {text value : String} (h : Writes text value) :
    Reader.run ⟨.start, [], record, records⟩ (text ++ ",").toList =
      some ⟨.start, [], record ++ [value], records⟩ := by
  obtain ⟨mode, hmode, hrun⟩ := run_field record records h
  have hstep : Reader.run ⟨mode, value.toList, record, records⟩ [','] =
      some (Reader.endField ⟨mode, value.toList, record, records⟩) := by
    simp only [List.mem_cons, List.not_mem_nil, or_false] at hmode
    rcases hmode with rfl | rfl | rfl <;> rfl
  rw [String.toList_append, run_append, hrun, Option.bind_some, show ",".toList = [','] from rfl,
    hstep, Reader.endField, String.ofList_toList]

lemma run_newline {text value : String} (h : Writes text value) :
    Reader.run ⟨.start, [], record, records⟩ (text ++ "\n").toList =
      some ⟨.start, [], [], records ++ [record ++ [value]]⟩ := by
  obtain ⟨mode, hmode, hrun⟩ := run_field record records h
  have hstep : Reader.run ⟨mode, value.toList, record, records⟩ ['\n'] =
      some (Reader.endRecord ⟨mode, value.toList, record, records⟩) := by
    simp only [List.mem_cons, List.not_mem_nil, or_false] at hmode
    rcases hmode with rfl | rfl | rfl <;> rfl
  rw [String.toList_append, run_append, hrun, Option.bind_some,
    show "\n".toList = ['\n'] from rfl, hstep, Reader.endRecord, String.ofList_toList]

end Fields

/-- At the start of a record the text is read as these fields, each with the comma after it. -/
def Fields (text : String) (values : List String) : Prop :=
  ∀ records, Reader.run ⟨.start, [], [], records⟩ text.toList =
    some ⟨.start, [], values, records⟩

/-- Between records the text is read as these records. -/
def Records (text : String) (rows : List (List String)) : Prop :=
  ∀ records, Reader.run ⟨.start, [], [], records⟩ text.toList =
    some ⟨.start, [], [], records ++ rows⟩

variable {text piece value : String} {values : List String}

lemma fields_cell (h : Writes piece value) : Fields (piece ++ ",") [value] :=
  fun records => run_comma [] records h

lemma Fields.cell (h : Fields text values) (hpiece : Writes piece value) :
    Fields (text ++ piece ++ ",") (values ++ [value]) := by
  intro records
  rw [String.append_assoc, String.toList_append, run_append, h records, Option.bind_some,
    run_comma values records hpiece]

lemma Fields.record (h : Fields text values) (hpiece : Writes piece value) :
    Records (text ++ piece ++ "\n") [values ++ [value]] := by
  intro records
  rw [String.append_assoc, String.toList_append, run_append, h records, Option.bind_some,
    run_newline values records hpiece]

/-- A record whose last field is empty. -/
lemma Fields.record_empty (h : Fields text values) : Records (text ++ "\n") [values ++ [""]] := by
  have hrecord := h.record (Writes.raw (show All IsRaw "" by decide))
  rwa [String.append_empty] at hrecord

lemma Records.append {text' : String} {rows rows' : List (List String)} (h : Records text rows)
    (h' : Records text' rows') : Records (text ++ text') (rows ++ rows') := by
  intro records
  rw [String.toList_append, run_append, h records, Option.bind_some, h', List.append_assoc]

lemma records_join {α : Type} {l : List α} {text : α → String} {rows : α → List (List String)}
    (h : ∀ a ∈ l, Records (text a) (rows a)) :
    Records (String.join (l.map text)) (l.flatMap rows) := by
  induction l with
  | nil =>
    intro records
    rw [List.flatMap_nil, List.append_nil]
    rfl
  | cons a l ih =>
    rw [List.map_cons, String.join_cons, List.flatMap_cons]
    exact (h a List.mem_cons_self).append (ih (fun b hb => h b (List.mem_cons_of_mem a hb)))

/-- Texts of one record each are read as their records, in order. -/
lemma records_map {α : Type} {l : List α} {text : α → String} {row : α → List String}
    (h : ∀ a ∈ l, Records (text a) [row a]) : Records (String.join (l.map text)) (l.map row) := by
  rw [List.map_eq_flatMap (f := row)]
  exact records_join h

/-- Values without a special character, joined by commas. -/
lemma run_intercalate {v : String} {l : List String} (h : ∀ s ∈ v :: l, All IsRaw s)
    (record : List String) (records : List (List String)) :
    Reader.run ⟨.start, [], record, records⟩ (",".intercalate (v :: l) ++ "\n").toList =
      some ⟨.start, [], [], records ++ [record ++ v :: l]⟩ := by
  have hv := Writes.raw (h v List.mem_cons_self)
  induction l generalizing v record with
  | nil => exact run_newline record records hv
  | cons w l ih =>
    have hl : ∀ s ∈ w :: l, All IsRaw s := fun s hs => h s (List.mem_cons_of_mem v hs)
    rw [String.intercalate_cons_cons, String.append_assoc, String.toList_append, run_append,
      run_comma record records hv, Option.bind_some,
      ih hl (record ++ [v]) (Writes.raw (hl w List.mem_cons_self)), List.append_assoc]
    rfl

lemma records_intercalate {v : String} {l : List String} (h : ∀ s ∈ v :: l, All IsRaw s) :
    Records (",".intercalate (v :: l) ++ "\n") [v :: l] :=
  fun records => run_intercalate h [] records

theorem Records.read_eq {rows : List (List String)} (h : Records text rows) :
    read text.toList = some rows := by
  unfold read
  rw [h []]
  rfl

end Csv
