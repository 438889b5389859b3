import Mathlib.Data.List.ReduceOption
import IpTools.Cli.Inputs
import IpTools.Cli.RunDiagnose
import IpTools.Proofs.AddressText
import IpTools.Proofs.Authority

/-!
# What the commands read

A list of destinations that a report prints is a target file that gives these destinations again,
headers are free of what would break a request, and standard input is read by one argument at most.
-/

namespace IpTools

open StableSort

lemma run_bind {α β : Type} {m : Input α} {f : α → Input β} {s : List UInt8}
    {r : β × List UInt8} :
    (m >>= f) s = .ok r ↔ ∃ a s', m s = .ok (a, s') ∧ f a s' = .ok r := by
  have hrun : (m >>= f) s = (m s >>= fun p => f p.1 p.2) := rfl
  rw [hrun]
  cases m s with
  | error e =>
    constructor
    · intro h
      cases h
    · rintro ⟨a, s', h, -⟩
      cases h
  | ok p =>
    constructor
    · exact fun h => ⟨p.1, p.2, rfl, h⟩
    · rintro ⟨a, s', h, hf⟩
      cases h
      exact hf

lemma run_lift_ok {α : Type} {e : Except String α} {s : List UInt8} {r : α × List UInt8} :
    (liftM e : Input α) s = .ok r ↔ e = .ok r.1 ∧ r.2 = s := by
  obtain ⟨a, rest⟩ := r
  cases e with
  | error e =>
    constructor
    · intro h
      cases h
    · rintro ⟨h, -⟩
      cases h
  | ok a' =>
    constructor
    · intro h
      cases h
      exact ⟨rfl, rfl⟩
    · rintro ⟨h, rfl⟩
      cases h
      rfl

lemma run_pure_ok {α : Type} {a : α} {s : List UInt8} {r : α × List UInt8} :
    (pure a : Input α) s = .ok r ↔ a = r.1 ∧ s = r.2 := by
  obtain ⟨b, rest⟩ := r
  constructor
  · intro h
    cases h
    exact ⟨rfl, rfl⟩
  · rintro ⟨rfl, rfl⟩
    rfl

lemma readText_encode (text : List Char) : readText (Utf8.encode text) = .ok text := by
  unfold readText
  rw [Utf8.decodeLossy_encode, if_pos rfl]

lemma argSource_file (path : String) : argSource ("@" ++ path) = .file path := by
  have htext : ("@" ++ path).toList = '@' :: path.toList := by
    rw [String.toList_append]
    rfl
  have hdash : "@" ++ path ≠ "-" := by
    intro h
    have hhead := congrArg String.toList h
    rw [htext] at hhead
    exact absurd (List.cons.inj hhead).1 (by decide)
  unfold argSource
  rw [if_neg hdash, htext]
  exact congrArg ArgSource.file String.ofList_toList

lemma readTextFile_ok [DebugTables] {files : Files} {what path : String} {text : List Char}
    (h : files path = .ok (Utf8.encode text)) : readTextFile files what path = .ok text := by
  unfold readTextFile
  rw [h]
  have hread : (do readText (← (.ok (Utf8.encode text) : Except String (List UInt8)))) =
      readText (Utf8.encode text) := rfl
  rw [hread, readText_encode]
  rfl

/-- Items are appended line by line where the line has one. -/
lemma foldlM_lines {α : Type} {push : List α → List Char → Except String (List α)}
    {lines : List (List Char)} {rows : List (Option α)}
    (h : List.Forall₂ (fun line row => ∀ items, push items line = .ok (items ++ row.toList))
      lines rows) (items : List α) :
    lines.foldlM push items = .ok (items ++ rows.reduceOption) := by
  induction h generalizing items with
  | nil => rw [List.reduceOption_nil, List.append_nil]; rfl
  | @cons line row lines rows hpush _ ih =>
    rw [List.foldlM_cons, hpush items]
    refine (ih _).trans (congrArg Except.ok ?_)
    cases row with
    | none => rw [List.reduceOption_cons_of_none, Option.toList_none, List.append_nil]
    | some row =>
      rw [List.reduceOption_cons_of_some, Option.toList_some, List.append_assoc,
        List.singleton_append]

lemma isName_ipv4 (ip : Ipv4Addr) : IsName (toString ip).toList := by
  obtain ⟨a, b, c, d, rfl⟩ := ip.exists_new
  have hchars : ∀ x ∈ (toString (Ipv4Addr.new a b c d)).toList, x.isDigit = true ∨ x = '.' := by
    intro x hx
    rw [toList_ipv4] at hx
    simp only [List.mem_append, List.mem_cons] at hx
    rcases hx with hx | rfl | hx | rfl | hx | rfl | hx
    · exact .inl (isDigit_of_mem_toDigits hx)
    · exact .inr rfl
    · exact .inl (isDigit_of_mem_toDigits hx)
    · exact .inr rfl
    · exact .inl (isDigit_of_mem_toDigits hx)
    · exact .inr rfl
    · exact .inl (isDigit_of_mem_toDigits hx)
  refine ⟨fun hnil => ?_, fun x hx => ?_⟩
  · rw [toList_ipv4] at hnil
    simp at hnil
  · rcases hchars x hx with hdigit | rfl
    · have hrange : 48 ≤ x.toNat ∧ x.toNat ≤ 57 := Char.isDigit_iff_toNat.mp hdigit
      constructor
      · intro hmem
        simp only [List.mem_cons, List.not_mem_nil, or_false] at hmem
        rcases hmem with rfl | rfl | rfl | rfl <;> revert hrange <;> decide
      · simp only [isWhitespace, Bool.or_eq_false_iff, Bool.and_eq_false_iff,
          decide_eq_false_iff_not]
        omega
    · exact ⟨by decide, by decide⟩

lemma isIpv6Literal_toString (ip : Ipv6Addr) : IsIpv6Literal (toString ip).toList :=
  ⟨(toString ip).toList, [], ip, by rw [List.append_nil], parseIpAddr_toString (.v6 ip), .inl rfl,
    fun c hc => absurd hc List.not_mem_nil⟩

/-- The target that a destination is written as. -/
def destinationTarget : IpAddr → UInt16 → Target
  | .v4 ip, port => ⟨(toString ip).toList, port⟩
  | .v6 ip, port => ⟨['['] ++ (toString ip).toList ++ [']'], port⟩

lemma toList_destination (ip : IpAddr) (port : UInt16) :
    (toString (SocketAddr.new ip port)).toList =
      (destinationTarget ip port).host ++ portSuffix port := by
  have hport : (toString port.toNat).toList = Nat.toDigits 10 port.toNat := Nat.toList_repr
  cases ip with
  | v4 ip =>
    have hstring : toString (SocketAddr.new (.v4 ip) port) =
        toString ip ++ ":" ++ toString port.toNat := rfl
    rw [hstring, String.toList_append, String.toList_append, hport, List.append_assoc]
    rfl
  | v6 ip =>
    have hstring : toString (SocketAddr.new (.v6 ip) port) =
        "[" ++ toString ip ++ "]:" ++ toString port.toNat := rfl
    have hopen : "[".toList = ['['] := rfl
    have hclose : "]:".toList = [']', ':'] := rfl
    rw [hstring, String.toList_append, String.toList_append, String.toList_append, hport, hopen,
      hclose]
    simp [destinationTarget, portSuffix]

lemma parse_destination (ip : IpAddr) (port d : UInt16) :
    Target.parse (toString (SocketAddr.new ip port)).toList d =
      .ok (destinationTarget ip port) := by
  rw [toList_destination]
  cases ip with
  | v4 ip => exact parse_name_port (isName_ipv4 ip) port d
  | v6 ip => exact parse_bracketed_port (isIpv6Literal_toString ip) port d

/-- The address of a target that a destination is written as needs no resolver. -/
lemma parseIpAddr_destinationTarget (ip : IpAddr) (port : UInt16) :
    parseIpAddr (trimEndMatches ']' (trimStartMatches '[' (destinationTarget ip port).host)) =
      some ip := by
  cases ip with
  | v4 ip =>
    have hplain : ∀ c ∈ (toString ip).toList, c ∉ ['[', ']'] := by
      intro c hc hmem
      refine ((isName_ipv4 ip).2 c hc).1 ?_
      simp only [List.mem_cons, List.not_mem_nil, or_false] at hmem ⊢
      rcases hmem with rfl | rfl <;> simp
    have hwire : trimEndMatches ']' (trimStartMatches '[' (toString ip).toList) =
        (toString ip).toList := wireHost_of_plain hplain
    exact (congrArg parseIpAddr hwire).trans (parseIpAddr_toString (.v4 ip))
  | v6 ip =>
    have hplain : ∀ c ∈ (toString ip).toList, c ∉ ['[', ']'] :=
      fun c hc => ((isIpv6Literal_toString ip).plain c hc).1
    have hwire : trimEndMatches ']' (trimStartMatches '['
        (['['] ++ (toString ip).toList ++ [']'])) = (toString ip).toList :=
      wireHost_of_bracketed hplain
    exact (congrArg parseIpAddr hwire).trans (parseIpAddr_toString (.v6 ip))

/-- Whitespace around a text that has none at its ends. -/
lemma trim_padded {before s after : List Char} (hbefore : ∀ c ∈ before, isWhitespace c = true)
    (hafter : ∀ c ∈ after, isWhitespace c = true) (hs : Trimmed s) (hne : s ≠ []) :
    trim (before ++ (s ++ after)) = s := by
  obtain ⟨c, t, rfl⟩ := List.exists_cons_of_ne_nil hne
  have hstart : isWhitespace c = false := hs.start c rfl
  have hdrop : (before ++ (c :: t ++ after)).dropWhile isWhitespace = c :: t ++ after := by
    rw [List.dropWhile_append_of_pos hbefore]
    exact dropWhile_of_head? (fun d hd => by rw [← Option.some.inj hd]; exact hstart)
  have hlast : ∀ d ∈ (c :: t).reverse.head?, isWhitespace d = false := by
    intro d hd
    rw [List.head?_reverse] at hd
    exact hs.ending d hd
  unfold trim dropWhileEnd
  rw [hdrop, List.reverse_append,
    List.dropWhile_append_of_pos (fun d hd => hafter d (List.mem_reverse.mp hd)),
    dropWhile_of_head? hlast, List.reverse_reverse]

lemma isWhitespace_host (ip : IpAddr) (port : UInt16) :
    ∀ c ∈ (destinationTarget ip port).host, isWhitespace c = false := by
  cases ip with
  | v4 ip => exact fun c hc => ((isName_ipv4 ip).2 c hc).2
  | v6 ip =>
    intro c hc
    rcases List.mem_append.mp hc with hc | hc
    · rcases List.mem_cons.mp hc with rfl | hc
      · decide
      · exact ((isIpv6Literal_toString ip).plain c hc).2
    · rw [List.mem_singleton.mp hc]
      decide

/-- A destination has no whitespace and is no comment. -/
lemma plain_destination (ip : IpAddr) (port : UInt16) :
    ∃ c t, (toString (SocketAddr.new ip port)).toList = c :: t ∧ c ≠ '#' ∧
      ∀ x ∈ c :: t, isWhitespace x = false := by
  have hhead : ∃ c t, (destinationTarget ip port).host = c :: t ∧ c ≠ '#' := by
    cases ip with
    | v4 ip =>
      obtain ⟨a, b, c, d, rfl⟩ := ip.exists_new
      obtain ⟨x, t, htext⟩ := List.exists_cons_of_length_pos
        (Nat.length_toDigits_pos (n := a.toNat) (b := 10))
      refine ⟨x, t ++ '.' :: (Nat.toDigits 10 b.toNat ++ '.' ::
        (Nat.toDigits 10 c.toNat ++ '.' :: Nat.toDigits 10 d.toNat)), ?_, ?_⟩
      · have hhost : (destinationTarget (.v4 (.new a b c d)) port).host =
            (toString (Ipv4Addr.new a b c d)).toList := by rw [destinationTarget]
        rw [hhost, toList_ipv4, htext, List.cons_append]
      · rintro rfl
        have hdigit := isDigit_of_mem_toDigits (htext ▸ List.mem_cons_self)
        exact absurd hdigit (by decide)
    | v6 ip => exact ⟨'[', (toString ip).toList ++ [']'], rfl, by decide⟩
  obtain ⟨c, t, hhost, hcomment⟩ := hhead
  refine ⟨c, t ++ portSuffix port, by rw [toList_destination, hhost, List.cons_append], hcomment,
    fun x hx => ?_⟩
  rw [← List.cons_append, ← hhost] at hx
  rcases List.mem_append.mp hx with hx | hx
  · exact isWhitespace_host ip port x hx
  · exact (portSuffix_plain port x hx).2

/-- A line of a target file with the destination it names, if it names one. -/
inductive TargetFileLine : List Char → Option (IpAddr × UInt16) → Prop
  | blank {line : List Char} (h : trim line = []) : TargetFileLine line none
  | comment {line : List Char} (h : (trim line).head? = some '#') : TargetFileLine line none
  | destination {before after : List Char} (ip : IpAddr) (port : UInt16)
      (hbefore : ∀ c ∈ before, isWhitespace c = true)
      (hafter : ∀ c ∈ after, isWhitespace c = true) :
      TargetFileLine (before ++ ((toString (SocketAddr.new ip port)).toList ++ after))
        (some (ip, port))

lemma pushTargetLine_of_line [DebugTables] {line : List Char} {row : Option (IpAddr × UInt16)}
    (h : TargetFileLine line row) (targets : List Target) :
    pushTargetLine targets line =
      .ok (targets ++ (row.map (fun r => destinationTarget r.1 r.2)).toList) := by
  unfold pushTargetLine targetLine
  cases h with
  | blank h =>
    rw [h]
    rfl
  | comment h =>
    have hskip : ((trim line).isEmpty || (trim line).head? = some '#') = true := by simp [h]
    dsimp only
    rw [if_pos hskip]
    rfl
  | destination ip port hbefore hafter =>
    obtain ⟨c, t, htext, hcomment, hplain⟩ := plain_destination ip port
    have htrimmed : Trimmed (c :: t) :=
      ⟨fun d hd => hplain d (List.mem_of_head? hd), fun d hd => hplain d (List.mem_of_getLast? hd)⟩
    have hread : ((c :: t).isEmpty || (c :: t).head? = some '#') = false := by simp [hcomment]
    have hparse := parse_destination ip port defaultTargetPort
    rw [htext] at hparse ⊢
    rw [trim_padded hbefore hafter htrimmed (List.cons_ne_nil c t)]
    dsimp only
    rw [hread, if_neg Bool.false_ne_true, hparse]
    rfl

/-- The lines of a file, each with its end. -/
structure TextFile where
  lines : List (List Char × Lines.End)
  isLine : ∀ e ∈ lines, Lines.IsLine e.1

def TextFile.bytes (file : TextFile) : List UInt8 := Utf8.encode (Lines.write file.lines)

lemma lines_textFile (file : TextFile) :
    Lines.lines (Lines.write file.lines) = file.lines.map Prod.fst :=
  Lines.lines_write file.isLine

lemma pushTargetArg_file [DebugTables]
    {files : Files} {path : String} (hpath : path ≠ "") {text : List Char}
    (hfile : files path = .ok (Utf8.encode text)) {targets targets' : List Target}
    (hpush : pushTargetLines targets text = .ok targets') (stdin : List UInt8) :
    pushTargetArg files targets ("@" ++ path) stdin = .ok (targets', stdin) := by
  have hempty : ¬path.isEmpty = true := by rwa [String.isEmpty_iff]
  unfold pushTargetArg
  rw [argSource_file]
  dsimp only
  rw [if_neg hempty, readTextFile_ok hfile]
  exact run_bind.mpr ⟨text, stdin, run_lift_ok.mpr ⟨rfl, rfl⟩, run_lift_ok.mpr ⟨hpush, rfl⟩⟩

/-- A list of destinations with blank lines and comments in between is a target file: it gives its
targets in order, and each of them stands for exactly its destination, whatever the resolvers
say. -/
theorem target_file_reread [DebugTables]
    {files : Files} {path : String} (hpath : path ≠ "") {file : TextFile}
    (hfile : files path = .ok file.bytes) {rows : List (Option (IpAddr × UInt16))}
    (hrows : List.Forall₂ TargetFileLine (file.lines.map Prod.fst) rows) (stdin : List UInt8) :
    ∃ targets, parseTargets files ["@" ++ path] stdin = .ok (targets, stdin) ∧
      List.Forall₂ (fun target row => ∀ resolvers : Resolvers,
        resolveForTcpServers resolvers target.host = .ok [row.1] ∧
        ∀ scope : FamilyScope, diagnoseDestinations resolvers scope target =
          if scope.keeps row.1 then some [SocketAddr.new row.1 row.2] else none)
        targets rows.reduceOption := by
  have hpush : pushTargetLines [] (Lines.write file.lines) =
      .ok (rows.reduceOption.map (fun r => destinationTarget r.1 r.2)) := by
    unfold pushTargetLines
    rw [lines_textFile]
    have hpushes : List.Forall₂
        (fun line row => ∀ items, pushTargetLine items line = .ok (items ++ row.toList))
        (file.lines.map Prod.fst)
        (rows.map (Option.map (fun r => destinationTarget r.1 r.2))) :=
      List.forall₂_map_right_iff.mpr (hrows.imp (fun _ _ h => pushTargetLine_of_line h))
    rw [foldlM_lines hpushes, List.nil_append, List.reduceOption_map]
  refine ⟨rows.reduceOption.map (fun r => destinationTarget r.1 r.2), ?_, ?_⟩
  · unfold parseTargets
    rw [List.foldlM_cons]
    exact run_bind.mpr ⟨_, stdin, pushTargetArg_file hpath hfile hpush stdin, rfl⟩
  · rw [List.forall₂_map_left_iff, List.forall₂_same]
    intro row _ resolvers
    have hliteral := parseIpAddr_destinationTarget row.1 row.2
    constructor
    · unfold resolveForTcpServers
      dsimp only
      rw [hliteral]
    · intro scope
      have hport : (destinationTarget row.1 row.2).port = row.2 := by cases row.1 <;> rfl
      have haddresses : diagnoseAddresses resolvers (destinationTarget row.1 row.2) = [row.1] := by
        unfold diagnoseAddresses
        rw [hliteral]
      unfold diagnoseDestinations
      dsimp only
      rw [haddresses, hport]
      cases hkeeps : scope.keeps row.1 with
      | true =>
        have hsort : sortByKey id [row.1] = [row.1] := List.mergeSort_singleton _
        rw [List.filter_cons_of_pos hkeeps, List.filter_nil, hsort]
        rfl
      | false =>
        rw [List.filter_cons_of_neg (by simp [hkeeps]), List.filter_nil]
        rfl

/-- A comment, a padded destination, a blank line and a destination with both ends. -/
theorem target_file_reread_two :
    letI := DebugTables.none
    let lines : List (List Char × Lines.End) := [("# edge".toList, .lineFeed),
      ("  192.0.2.1:443 ".toList, .lineFeed), ([], .lineFeed),
      ("[2001:db8::1]:8443".toList, .returnLineFeed)]
    let ip : IpAddr := .v6 ⟨#v[0x20, 1, 0xd, 0xb8, 0, 0, 0, 0, 0, 0, 0, 0, 0, 0, 0, 1]⟩
    ∃ targets,
      parseTargets (fun _ => .ok (Utf8.encode (Lines.write lines))) ["@" ++ "edge.txt"] [] =
        .ok (targets, []) ∧
      List.Forall₂ (fun target row => ∀ resolvers : Resolvers,
        resolveForTcpServers resolvers target.host = .ok [row.1] ∧
        ∀ scope : FamilyScope, diagnoseDestinations resolvers scope target =
          if scope.keeps row.1 then some [SocketAddr.new row.1 row.2] else none)
        targets [none, some (.v4 (.new 192 0 2 1), 443), none, some (ip, 8443)].reduceOption := by
  intro lines ip
  have hlines : ∀ e ∈ lines, Lines.IsLine e.1 := by
    simp only [lines, List.forall_mem_cons]
    exact ⟨⟨by decide, by decide⟩, ⟨by decide, by decide⟩, ⟨by decide, by decide⟩,
      ⟨by decide, by decide⟩, fun e he => absurd he List.not_mem_nil⟩
  let file : TextFile := ⟨lines, hlines⟩
  have hv4 : TargetFileLine "  192.0.2.1:443 ".toList (some (.v4 (.new 192 0 2 1), 443)) := by
    have hline := @TargetFileLine.destination "  ".toList " ".toList (.v4 (.new 192 0 2 1)) 443
      (List.all_eq_true.mp rfl) (List.all_eq_true.mp rfl)
    have htext : (toString (SocketAddr.new (.v4 (.new 192 0 2 1)) 443)).toList =
        "192.0.2.1:443".toList := by decide +kernel
    rwa [htext] at hline
  have hv6 : TargetFileLine "[2001:db8::1]:8443".toList (some (ip, 8443)) := by
    have hline := @TargetFileLine.destination [] [] ip 8443
      (List.all_eq_true.mp rfl) (List.all_eq_true.mp rfl)
    have htext : (toString (SocketAddr.new ip 8443)).toList = "[2001:db8::1]:8443".toList := by
      decide +kernel
    rwa [htext] at hline
  have hrows : List.Forall₂ TargetFileLine (lines.map Prod.fst)
      [none, some (.v4 (.new 192 0 2 1), 443), none, some (ip, 8443)] :=
    .cons (.comment (by decide)) (.cons hv4 (.cons (.blank (by decide)) (.cons hv6 .nil)))
  exact @target_file_reread .none _ _ (by decide) file rfl _ hrows []

/-- A header that cannot break the request it is sent in: its name is a token, and its value has no
control character and no space at its ends. -/
structure HeaderClean (header : String × String) : Prop where
  name : validHeaderName header.1.toList = true
  value : ∀ c ∈ header.2.toList, isValueControl c = false
  trimmed : Trimmed header.2.toList

lemma headerClean_of_parse [DebugTables] {line : List Char} {header : String × String}
    (h : parseHeaderLine line = .ok header) : HeaderClean header := by
  unfold parseHeaderLine at h
  dsimp only at h
  split at h
  · cases h
  · split at h
    · cases h
    · rename_i name value _ hname
      split at h
      · cases h
      · rename_i hvalue
        cases h
        refine ⟨?_, fun c hc => ?_, ?_⟩
        · rw [String.toList_ofList]
          simpa using hname
        · rw [String.toList_ofList] at hc
          rw [Bool.not_eq_true, List.any_eq_false] at hvalue
          simpa using hvalue c hc
        · rw [String.toList_ofList]
          exact trimmed_trim value

lemma headerClean_of_mapError [DebugTables]
    {line : List Char} {header : String × String} {f : String → String}
    (h : (parseHeaderLine line).mapError f = .ok header) : HeaderClean header := by
  cases hparse : parseHeaderLine line with
  | error e =>
    rw [hparse] at h
    cases h
  | ok header' =>
    rw [hparse] at h
    cases h
    exact headerClean_of_parse hparse

lemma foldlM_ok_induction {α β : Type} {push : β → α → Except String β} {P : β → Prop}
    (hpush : ∀ b a b', P b → push b a = .ok b' → P b') {l : List α} {b b' : β} (hb : P b)
    (h : l.foldlM push b = .ok b') : P b' := by
  induction l generalizing b with
  | nil =>
    cases h
    exact hb
  | cons a l ih =>
    rw [List.foldlM_cons] at h
    cases hstep : push b a with
    | error e =>
      rw [hstep] at h
      cases h
    | ok b'' =>
      rw [hstep] at h
      exact ih (hpush b a b'' hb hstep) h

/-- The headers of a list are clean. -/
def HeadersClean (headers : List (String × String)) : Prop := ∀ h ∈ headers, HeaderClean h

lemma HeadersClean.concat {headers : List (String × String)} {header : String × String}
    (h : HeadersClean headers) (hheader : HeaderClean header) :
    HeadersClean (headers ++ [header]) := by
  intro h' hmem
  rcases List.mem_append.mp hmem with hmem | hmem
  · exact h h' hmem
  · rwa [List.mem_singleton.mp hmem]

lemma headersClean_of_lines [DebugTables] {text : List Char} {source : String}
    {headers headers' : List (String × String)} (hclean : HeadersClean headers)
    (h : pushHeaderLines headers text source = .ok headers') : HeadersClean headers' := by
  refine foldlM_ok_induction (fun headers line headers' hclean hpush => ?_) hclean h
  dsimp only at hpush
  split at hpush
  · cases hpush
    exact hclean
  · cases hparse : (parseHeaderLine (trim line)).mapError (fun e => s!"{e} (from {source})") with
    | error e =>
      rw [hparse] at hpush
      cases hpush
    | ok header =>
      rw [hparse] at hpush
      cases hpush
      exact hclean.concat (headerClean_of_mapError hparse)

/-! ### Standard input -/

/-- A computation that reads all of standard input, or none of it. -/
structure ReadsIf {α : Type} (m : Input α) (uses : Bool) : Prop where
  rest : ∀ {stdin a rest}, m stdin = .ok (a, rest) → rest = if uses then [] else stdin
  blind : uses = false → ∀ {stdin stdin' a rest}, m stdin = .ok (a, rest) →
    m stdin' = .ok (a, stdin')

lemma ReadsIf.bind {α β : Type} {m : Input α} {f : α → Input β} {u v : Bool} (hm : ReadsIf m u)
    (hf : ∀ a, ReadsIf (f a) v) : ReadsIf (m >>= f) (u || v) where
  rest := by
    intro stdin b rest h
    obtain ⟨a, s', hfirst, hsecond⟩ := run_bind.mp h
    rw [(hf a).rest hsecond, hm.rest hfirst]
    cases u <;> cases v <;> rfl
  blind := by
    intro huses stdin stdin' b rest h
    obtain ⟨hu, hv⟩ := Bool.or_eq_false_iff.mp huses
    obtain ⟨a, s', hfirst, hsecond⟩ := run_bind.mp h
    exact run_bind.mpr ⟨a, stdin', hm.blind hu hfirst, (hf a).blind hv hsecond⟩

lemma readsIf_lift {α : Type} (e : Except String α) : ReadsIf (liftM e : Input α) false where
  rest := by
    intro stdin a rest h
    cases e with
    | error e => cases h
    | ok a => cases h; rfl
  blind := by
    intro _ stdin stdin' a rest h
    cases e with
    | error e => cases h
    | ok a => cases h; rfl

lemma readsIf_pure {α : Type} (a : α) : ReadsIf (pure a : Input α) false := readsIf_lift (.ok a)

lemma readsIf_throw {α : Type} (e : String) : ReadsIf (throw e : Input α) false :=
  readsIf_lift (.error e)

lemma readsIf_readStdin : ReadsIf readStdin true where
  rest := by
    intro stdin a rest h
    cases h
    rfl
  blind := by
    intro h
    cases h

lemma argSource_eq_stdin_iff {raw : String} : argSource raw = .stdin ↔ raw = "-" := by
  unfold argSource
  by_cases hraw : raw = "-"
  · simp [hraw]
  · rw [if_neg hraw]
    split <;> simp [hraw]

/-- The arguments that name their source read standard input where one of them is a dash. -/
lemma readsIf_foldlM {β : Type} {push : β → String → Input β}
    (h : ∀ b raw, ReadsIf (push b raw) (decide (argSource raw = .stdin))) (values : List String)
    (b : β) : ReadsIf (values.foldlM push b) (usesStdin values) := by
  induction values generalizing b with
  | nil => exact readsIf_pure b
  | cons raw values ih =>
    have huses : usesStdin (raw :: values) =
        (decide (argSource raw = .stdin) || usesStdin values) := by
      unfold usesStdin
      rw [List.any_cons]
      simp only [argSource_eq_stdin_iff]
    rw [List.foldlM_cons, huses]
    exact (h b raw).bind ih

lemma readsIf_readTextStdin (what : String) : ReadsIf (readTextStdin what) true :=
  readsIf_readStdin.bind (fun _ => readsIf_lift _)

lemma readsIf_pushHeaderArg [DebugTables]
    (files : Files) (headers : List (String × String)) (raw : String) :
    ReadsIf (pushHeaderArg files headers raw) (decide (argSource raw = .stdin)) := by
  unfold pushHeaderArg
  cases argSource raw with
  | stdin => exact (readsIf_readTextStdin "headers").bind (fun _ => readsIf_lift _)
  | file path =>
    dsimp only
    split
    · exact (readsIf_throw _).bind (fun _ => (readsIf_lift _).bind (fun _ => readsIf_lift _))
    · exact (readsIf_lift _).bind (fun _ => readsIf_lift _)
  | inline text => exact (readsIf_lift _).bind (fun _ => readsIf_pure _)

lemma readsIf_pushTargetArg [DebugTables] (files : Files) (targets : List Target) (raw : String) :
    ReadsIf (pushTargetArg files targets raw) (decide (argSource raw = .stdin)) := by
  unfold pushTargetArg
  cases argSource raw with
  | stdin => exact (readsIf_readTextStdin "targets").bind (fun _ => readsIf_lift _)
  | file path =>
    dsimp only
    split
    · exact (readsIf_throw _).bind (fun _ => (readsIf_lift _).bind (fun _ => readsIf_lift _))
    · exact (readsIf_lift _).bind (fun _ => readsIf_lift _)
  | inline text => exact readsIf_lift _

lemma readsIf_parseBody [DebugTables] (files : Files) (value : Option String) :
    ReadsIf (parseBody files value) (usesStdin value.toList) := by
  cases value with
  | none => exact readsIf_pure none
  | some raw =>
    have huses : usesStdin (some raw).toList = decide (argSource raw = .stdin) := by
      simp [usesStdin, argSource_eq_stdin_iff]
    rw [huses]
    unfold parseBody
    dsimp only
    cases argSource raw with
    | stdin => exact readsIf_readStdin.bind (fun _ => readsIf_pure _)
    | file path =>
      dsimp only
      split
      · exact (readsIf_throw _).bind (fun _ => (readsIf_lift _).bind (fun _ => readsIf_pure _))
      · exact (readsIf_lift _).bind (fun _ => readsIf_pure _)
    | inline text => exact readsIf_pure _

section Sequence

variable {α β γ : Type} {a : α} {b : β} {c : γ} {stdin stdin' rest : List UInt8}

/-- Where one of two computations does not read, the second runs as if the first had not. -/
lemma exists_after {m : Input α} {n : Input β} {u v : Bool} (hm : ReadsIf m u) (hn : ReadsIf n v)
    (hone : u = false ∨ v = false) (h : m stdin = .ok (a, stdin')) :
    (∃ rest, n stdin' = .ok (b, rest)) ↔ ∃ rest, n stdin = .ok (b, rest) := by
  rcases hone with rfl | rfl
  · rw [hm.rest h]
    rfl
  · constructor
    · rintro ⟨rest, hrest⟩
      exact ⟨stdin, hn.blind rfl hrest⟩
    · rintro ⟨rest, hrest⟩
      exact ⟨stdin', hn.blind rfl hrest⟩

/-- Three computations, one of which reads at most, run in sequence as each of them alone. -/
lemma run_three {m : Input α} {n : Input β} {l : Input γ} {u v w : Bool} (hm : ReadsIf m u)
    (hn : ReadsIf n v) (hl : ReadsIf l w) (hmn : u = false ∨ v = false)
    (hml : u = false ∨ w = false) (hnl : v = false ∨ w = false) :
    (∃ s s', m stdin = .ok (a, s) ∧ n s = .ok (b, s') ∧ l s' = .ok (c, rest)) ↔
      (∃ r, m stdin = .ok (a, r)) ∧ (∃ r, n stdin = .ok (b, r)) ∧ (∃ r, l stdin = .ok (c, r)) ∧
        rest = if u || v || w then [] else stdin := by
  constructor
  · rintro ⟨s, s', hfirst, hsecond, hthird⟩
    refine ⟨⟨s, hfirst⟩, (exists_after hm hn hmn hfirst).mp ⟨s', hsecond⟩,
      (exists_after hm hl hml hfirst).mp ((exists_after hn hl hnl hsecond).mp ⟨rest, hthird⟩), ?_⟩
    rw [hl.rest hthird, hn.rest hsecond, hm.rest hfirst]
    cases u <;> cases v <;> cases w <;> rfl
  · rintro ⟨⟨s, hfirst⟩, hsecond, hthird, rfl⟩
    obtain ⟨s', hsecond⟩ := (exists_after hm hn hmn hfirst).mpr hsecond
    obtain ⟨r, hthird⟩ := (exists_after hn hl hnl hsecond).mpr
      ((exists_after hm hl hml hfirst).mpr hthird)
    refine ⟨s, s', hfirst, hsecond, hthird.trans ?_⟩
    rw [hl.rest hthird, hn.rest hsecond, hm.rest hfirst]
    cases u <;> cases v <;> cases w <;> rfl

end Sequence

/-- What each argument gives on its own, with the whole of standard input before it. -/
structure InputsAlone [DebugTables] (files : Files) (args : RequestArgs) (stdin : List UInt8)
    (inputs : RequestInputs) (rest : List UInt8) : Prop where
  oneReader : checkStdinConflict args = .ok ()
  headers : ∃ r, parseCustomHeaders files args.headers stdin = .ok (inputs.headers, r)
  body : ∃ r, parseBody files args.body stdin = .ok (inputs.body, r)
  targets : ∃ r, parseTargets files args.targets stdin = .ok (inputs.targets, r)
  servers : parseCustomServers args.servers = .ok inputs.servers
  rest : rest = if usesStdin args.headers || usesStdin args.body.toList ||
    usesStdin args.targets then [] else stdin

lemma one_reader {args : RequestArgs} (h : checkStdinConflict args = .ok ()) :
    (usesStdin args.headers = false ∨ usesStdin args.body.toList = false) ∧
    (usesStdin args.headers = false ∨ usesStdin args.targets = false) ∧
    (usesStdin args.body.toList = false ∨ usesStdin args.targets = false) := by
  unfold checkStdinConflict at h
  split at h
  · cases h
  · rename_i hcount
    simp only [List.countP_cons, List.countP_nil] at hcount
    revert hcount
    cases usesStdin args.headers <;> cases usesStdin args.body.toList <;>
      cases usesStdin args.targets <;> decide

section Orders

variable (files : Files) (args : RequestArgs) (stdin rest : List UInt8) (inputs : RequestInputs)

lemma httpInputs_ok_iff [DebugTables] : httpInputs files args stdin = .ok (inputs, rest) ↔
    checkStdinConflict args = .ok () ∧ parseCustomServers args.servers = .ok inputs.servers ∧
      ∃ s s', parseCustomHeaders files args.headers stdin = .ok (inputs.headers, s) ∧
        parseBody files args.body s = .ok (inputs.body, s') ∧
        parseTargets files args.targets s' = .ok (inputs.targets, rest) := by
  unfold httpInputs
  simp only [run_bind, run_lift_ok, run_pure_ok]
  constructor
  · rintro ⟨⟨⟩, _, ⟨hcheck, rfl⟩, headers, s, hheaders, body, s', hbody, servers, _,
      ⟨hservers, rfl⟩, targets, r, htargets, rfl, rfl⟩
    exact ⟨hcheck, hservers, s, _, hheaders, hbody, htargets⟩
  · rintro ⟨hcheck, hservers, s, s', hheaders, hbody, htargets⟩
    exact ⟨(), stdin, ⟨hcheck, rfl⟩, _, s, hheaders, _, s', hbody, _, s', ⟨hservers, rfl⟩, _, rest,
      htargets, rfl, rfl⟩

lemma diagnoseInputs_ok_iff [DebugTables] : diagnoseInputs files args stdin = .ok (inputs, rest) ↔
    checkStdinConflict args = .ok () ∧ parseCustomServers args.servers = .ok inputs.servers ∧
      ∃ s s', parseTargets files args.targets stdin = .ok (inputs.targets, s) ∧
        parseCustomHeaders files args.headers s = .ok (inputs.headers, s') ∧
        parseBody files args.body s' = .ok (inputs.body, rest) := by
  unfold diagnoseInputs
  simp only [run_bind, run_lift_ok, run_pure_ok]
  constructor
  · rintro ⟨⟨⟩, _, ⟨hcheck, rfl⟩, targets, s, htargets, headers, s', hheaders, body, r, hbody,
      servers, _, ⟨hservers, rfl⟩, rfl, rfl⟩
    exact ⟨hcheck, hservers, s, s', htargets, hheaders, hbody⟩
  · rintro ⟨hcheck, hservers, s, s', htargets, hheaders, hbody⟩
    exact ⟨(), stdin, ⟨hcheck, rfl⟩, _, s, htargets, _, s', hheaders, _, rest, hbody, _, rest,
      ⟨hservers, rfl⟩, rfl, rfl⟩

/-- The two orders in which the commands read their arguments come to the same: where one argument
at most is a dash, each gives what it gives on its own. -/
theorem stdin_read_once [DebugTables] :
    (httpInputs files args stdin = .ok (inputs, rest) ↔
      InputsAlone files args stdin inputs rest) ∧
    (diagnoseInputs files args stdin = .ok (inputs, rest) ↔
      InputsAlone files args stdin inputs rest) := by
  have hheaders := readsIf_foldlM (readsIf_pushHeaderArg files) args.headers []
  have hbody := readsIf_parseBody files args.body
  have htargets := readsIf_foldlM (readsIf_pushTargetArg files) args.targets []
  rw [httpInputs_ok_iff, diagnoseInputs_ok_iff]
  constructor
  · constructor
    · rintro ⟨hcheck, hservers, hrun⟩
      obtain ⟨hhb, hht, hbt⟩ := one_reader hcheck
      obtain ⟨hh, hb, ht, hrest⟩ := (run_three hheaders hbody htargets hhb hht hbt).mp hrun
      exact ⟨hcheck, hh, hb, ht, hservers, hrest⟩
    · rintro ⟨hcheck, hh, hb, ht, hservers, hrest⟩
      obtain ⟨hhb, hht, hbt⟩ := one_reader hcheck
      exact ⟨hcheck, hservers,
        (run_three hheaders hbody htargets hhb hht hbt).mpr ⟨hh, hb, ht, hrest⟩⟩
  · have hsame : (usesStdin args.targets || usesStdin args.headers || usesStdin args.body.toList) =
        (usesStdin args.headers || usesStdin args.body.toList || usesStdin args.targets) := by
      cases usesStdin args.targets <;> cases usesStdin args.headers <;>
        cases usesStdin args.body.toList <;> rfl
    constructor
    · rintro ⟨hcheck, hservers, hrun⟩
      obtain ⟨hhb, hht, hbt⟩ := one_reader hcheck
      obtain ⟨ht, hh, hb, hrest⟩ :=
        (run_three htargets hheaders hbody hht.symm hbt.symm hhb).mp hrun
      exact ⟨hcheck, hh, hb, ht, hservers, hsame ▸ hrest⟩
    · rintro ⟨hcheck, hh, hb, ht, hservers, hrest⟩
      obtain ⟨hhb, hht, hbt⟩ := one_reader hcheck
      exact ⟨hcheck, hservers, (run_three htargets hheaders hbody hht.symm hbt.symm hhb).mpr
        ⟨ht, hh, hb, hsame ▸ hrest⟩⟩

end Orders

/-! ### Header files -/

lemma headersClean_of_arg [DebugTables] {files : Files} {headers headers' : List (String × String)}
    {raw : String} {s s' : List UInt8} (hclean : HeadersClean headers)
    (h : pushHeaderArg files headers raw s = .ok (headers', s')) : HeadersClean headers' := by
  unfold pushHeaderArg at h
  cases hsource : argSource raw with
  | stdin =>
    rw [hsource] at h
    obtain ⟨text, t, -, h⟩ := run_bind.mp h
    exact headersClean_of_lines hclean (run_lift_ok.mp h).1
  | file path =>
    rw [hsource] at h
    dsimp only at h
    split at h
    · obtain ⟨_, t, hthrow, -⟩ := run_bind.mp h
      cases hthrow
    · obtain ⟨text, t, -, h⟩ := run_bind.mp h
      exact headersClean_of_lines hclean (run_lift_ok.mp h).1
  | inline text =>
    rw [hsource] at h
    obtain ⟨header, t, hparse, h⟩ := run_bind.mp h
    obtain ⟨rfl, -⟩ := run_pure_ok.mp h
    exact hclean.concat (headerClean_of_parse (run_lift_ok.mp hparse).1)

lemma headersClean_of_parse [DebugTables] {files : Files} {values : List String}
    {headers headers' : List (String × String)} {s s' : List UInt8} (hclean : HeadersClean headers)
    (h : values.foldlM (pushHeaderArg files) headers s = .ok (headers', s')) :
    HeadersClean headers' := by
  induction values generalizing headers s with
  | nil =>
    obtain ⟨rfl, -⟩ := run_pure_ok.mp h
    exact hclean
  | cons raw values ih =>
    rw [List.foldlM_cons] at h
    obtain ⟨headers'', t, harg, h⟩ := run_bind.mp h
    exact ih (headersClean_of_arg hclean harg) h

/-- A header as a line. -/
def headerLine (header : String × String) : List Char :=
  header.1.toList ++ ':' :: ' ' :: header.2.toList

/-- The headers of a file, one on each line. -/
def headerFile (headers : List (String × String)) : List Char :=
  Lines.write (headers.map (fun h => (headerLine h, .lineFeed)))

lemma plain_of_isTokenChar {c : Char} (h : isTokenChar c = true) :
    isWhitespace c = false ∧ c ∉ [':', '\n', '\r'] := by
  have hmarks : ∀ c ∈ tokenMarks, isWhitespace c = false ∧ c ∉ [':', '\n', '\r'] := by
    have hall : tokenMarks.all (fun c => !isWhitespace c && c ∉ [':', '\n', '\r']) = true := by
      decide
    intro c hc
    simpa only [Bool.and_eq_true, Bool.not_eq_true', decide_eq_true_eq] using
      List.all_eq_true.mp hall c hc
  unfold isTokenChar at h
  rw [Bool.or_eq_true] at h
  rcases h with hletter | hmark
  · have hrange := CharClass.toNat_of_isAlphanum hletter
    constructor
    · simp only [isWhitespace, Bool.or_eq_false_iff, Bool.and_eq_false_iff,
        decide_eq_false_iff_not]
      omega
    · intro hmem
      simp only [List.mem_cons, List.not_mem_nil, or_false] at hmem
      rcases hmem with rfl | rfl | rfl <;> revert hrange <;> decide
  · exact hmarks c (of_decide_eq_true hmark)

lemma name_spec {header : String × String} (h : HeaderClean header) :
    header.1.toList ≠ [] ∧ ∀ c ∈ header.1.toList, isTokenChar c = true := by
  have hname := h.name
  unfold validHeaderName at hname
  rw [Bool.and_eq_true, Bool.not_eq_true', List.all_eq_true] at hname
  exact ⟨fun hnil => by simp [hnil] at hname, hname.2⟩

/-- The value is all that is left after the colon. -/
lemma trim_afterColon {value : List Char} (h : Trimmed value) :
    trim (dropWhileEnd isWhitespace (' ' :: value)) = value := by
  cases value with
  | nil => decide
  | cons c t =>
    have hlast : ∀ d ∈ (' ' :: c :: t).reverse.head?, isWhitespace d = false := by
      intro d hd
      rw [List.head?_reverse, List.getLast?_cons_cons] at hd
      exact h.ending d hd
    have hkept : dropWhileEnd isWhitespace (' ' :: c :: t) = ' ' :: c :: t := by
      unfold dropWhileEnd
      rw [dropWhile_of_head? hlast, List.reverse_reverse]
    have hpadded := @trim_padded [' '] (c :: t) [] (List.all_eq_true.mp rfl)
      (List.all_eq_true.mp rfl) h (List.cons_ne_nil c t)
    rw [List.append_nil] at hpadded
    rw [hkept]
    exact hpadded

lemma parse_headerLine [DebugTables] {header : String × String} (h : HeaderClean header) :
    trim (headerLine header) ≠ [] ∧ parseHeaderLine (trim (headerLine header)) = .ok header := by
  obtain ⟨hne, htoken⟩ := name_spec h
  have hplain : ∀ c ∈ header.1.toList, isWhitespace c = false :=
    fun c hc => (plain_of_isTokenChar (htoken c hc)).1
  have hcolon : ':' ∉ header.1.toList :=
    fun hmem => (plain_of_isTokenChar (htoken _ hmem)).2 (by decide)
  have htrim : trim (headerLine header) =
      header.1.toList ++ ':' :: dropWhileEnd isWhitespace (' ' :: header.2.toList) :=
    trim_append_cons hne (fun c hc => hplain c (List.mem_of_head? hc)) (by decide)
  have hvalue : header.2.toList.any isValueControl = false := by
    rw [List.any_eq_false]
    exact fun c hc => by simp [h.value c hc]
  have hname : (!validHeaderName header.1.toList) = false := by rw [h.name]; rfl
  constructor
  · rw [htrim]
    simp
  · unfold parseHeaderLine
    dsimp only
    rw [htrim, splitOnce_append hcolon]
    dsimp only
    rw [trim_of_all hplain, trim_afterColon h.trimmed, hname, hvalue, String.ofList_toList,
      String.ofList_toList]
    rfl

lemma isLine_headerLine {header : String × String} (h : HeaderClean header) :
    Lines.IsLine (headerLine header) := by
  have hnone : ∀ c ∈ ['\n', '\r'], c ∉ headerLine header := by
    intro c hc hmem
    rcases List.mem_append.mp hmem with hmem | hmem
    · have hplain := (plain_of_isTokenChar ((name_spec h).2 c hmem)).2
      exact hplain (List.mem_cons_of_mem _ hc)
    · rcases List.mem_cons.mp hmem with rfl | hmem
      · exact absurd hc (by decide)
      · rcases List.mem_cons.mp hmem with rfl | hmem
        · exact absurd hc (by decide)
        · have hvalue := h.value c hmem
          rcases List.mem_pair.mp hc with rfl | rfl <;> exact absurd hvalue (by decide)
  exact ⟨hnone '\n' (by decide), fun hlast => hnone '\r' (by decide) (List.mem_of_getLast? hlast)⟩

lemma pushHeaderLines_file [DebugTables]
    {headers : List (String × String)} (h : HeadersClean headers)
    (source : String) : pushHeaderLines [] (headerFile headers) source = .ok headers := by
  have hlines : Lines.lines (headerFile headers) = headers.map headerLine := by
    have hread := Lines.lines_write (l := headers.map (fun h => (headerLine h, Lines.End.lineFeed)))
      (fun e he => by
        obtain ⟨header, hmem, rfl⟩ := List.mem_map.mp he
        exact isLine_headerLine (h header hmem))
    rw [List.map_map] at hread
    exact hread
  unfold pushHeaderLines
  rw [hlines]
  have hpushes : List.Forall₂ (fun line row => ∀ items, (fun headers line =>
      let line := trim line
      if line.isEmpty then .ok headers
      else do
        let header ← (parseHeaderLine line).mapError (fun e => s!"{e} (from {source})")
        return headers ++ [header] : List (String × String) → List Char →
          Except String (List (String × String))) items line = .ok (items ++ row.toList))
      (headers.map headerLine) (headers.map some) := by
    rw [List.forall₂_map_left_iff, List.forall₂_map_right_iff, List.forall₂_same]
    intro header hmem items
    obtain ⟨hne, hparse⟩ := parse_headerLine (h header hmem)
    have hempty : ¬(trim (headerLine header)).isEmpty = true := by rwa [List.isEmpty_iff]
    dsimp only
    rw [if_neg hempty, hparse]
    rfl
  refine (foldlM_lines hpushes []).trans (congrArg Except.ok ?_)
  rw [List.nil_append]
  unfold List.reduceOption
  rw [List.filterMap_map]
  exact List.filterMap_some

lemma pushHeaderArg_file [DebugTables]
    {files : Files} {path : String} (hpath : path ≠ "") {text : List Char}
    (hfile : files path = .ok (Utf8.encode text)) {headers : List (String × String)}
    (hpush : ∀ source, pushHeaderLines [] text source = .ok headers) (stdin : List UInt8) :
    parseCustomHeaders files ["@" ++ path] stdin = .ok (headers, stdin) := by
  have hempty : ¬path.isEmpty = true := by rwa [String.isEmpty_iff]
  unfold parseCustomHeaders
  rw [List.foldlM_cons]
  refine run_bind.mpr ⟨headers, stdin, ?_, rfl⟩
  unfold pushHeaderArg
  rw [argSource_file]
  dsimp only
  rw [if_neg hempty]
  refine run_bind.mpr ⟨text, stdin, run_lift_ok.mpr ⟨readTextFile_ok hfile, rfl⟩, ?_⟩
  exact run_lift_ok.mpr ⟨hpush _, rfl⟩

/-- Whatever they are read from, headers are clean; and a file of headers is read back as what was
written exactly where these are clean. -/
theorem custom_headers_clean [DebugTables] (files : Files) :
    (∀ values stdin headers rest,
      parseCustomHeaders files values stdin = .ok (headers, rest) → HeadersClean headers) ∧
    ∀ path headers stdin, path ≠ "" → files path = .ok (Utf8.encode (headerFile headers)) →
      (parseCustomHeaders files ["@" ++ path] stdin = .ok (headers, stdin) ↔
        HeadersClean headers) := by
  have hclean : ∀ values stdin headers rest,
      parseCustomHeaders files values stdin = .ok (headers, rest) → HeadersClean headers :=
    fun values stdin headers rest h =>
      headersClean_of_parse (fun _ h => absurd h List.not_mem_nil) h
  refine ⟨hclean, fun path headers stdin hpath hfile => ⟨hclean _ _ _ _, fun h => ?_⟩⟩
  exact pushHeaderArg_file hpath hfile (pushHeaderLines_file h) stdin

/-- A header with colons in its value, and one without a value. -/
theorem custom_headers_clean_colons :
    letI := DebugTables.none
    let headers := [("x-trace", "a:b:c"), ("accept", "")]
    let files : Files := fun _ => .ok (Utf8.encode (headerFile headers))
    parseCustomHeaders files ["@" ++ "headers.txt"] [] = .ok (headers, []) ↔
      HeadersClean headers := by
  intro headers files
  let := DebugTables.none
  exact (custom_headers_clean files).2 "headers.txt" headers [] (by decide) rfl

/-! ### Request lines -/

lemma chars_of_httpMethodToken {raw method : String} (h : httpMethodToken raw = .ok method) :
    ∀ c ∈ method.toList, isTokenChar c = true := by
  unfold httpMethodToken at h
  split at h
  case isTrue => cases h
  case isFalse =>
    split at h
    case isTrue => cases h
    case isFalse htoken =>
      cases h
      rw [Bool.not_eq_true', Bool.not_eq_false] at htoken
      exact List.all_eq_true.mp htoken

lemma chars_of_httpPathToken {raw path : String} (h : httpPathToken raw = .ok path) :
    path.toList.head? = some '/' ∧
      ∀ c ∈ path.toList, isWhitespace c = false ∧ isControl c = false := by
  unfold httpPathToken at h
  split at h
  case isTrue => cases h
  case isFalse =>
    split at h
    case isTrue => cases h
    case isFalse hslash =>
      split at h
      case isTrue => cases h
      case isFalse hplain =>
        cases h
        refine ⟨not_not.mp hslash, fun c hc => ?_⟩
        rw [Bool.not_eq_true, List.any_eq_false] at hplain
        have hnone := hplain c hc
        rwa [Bool.not_eq_true, Bool.or_eq_false_iff] at hnone

lemma ne_space_of_not_isWhitespace {c : Char} (h : isWhitespace c = false) :
    c ≠ ' ' ∧ c ≠ '\n' ∧ c ≠ '\r' := by
  refine ⟨?_, ?_, ?_⟩
  all_goals
    rintro rfl
    cases h

/-- A method and a path that are accepted are the first two words of the request line they make, the
path with its slash, and nothing in them ends the line. -/
theorem request_line_read {rawMethod rawPath method path : String}
    (hmethod : httpMethodToken rawMethod = .ok method) (hpath : httpPathToken rawPath = .ok path)
    (version : List Char) :
    let target := path.toList ++ ' ' :: version
    splitOnce ' ' (method.toList ++ ' ' :: target) = some (method.toList, target) ∧
      splitOnce ' ' target = some (path.toList, version) ∧ path.toList.head? = some '/' ∧
      ∀ c ∈ method.toList ++ path.toList, c ≠ '\n' ∧ c ≠ '\r' := by
  have hmethodPlain : ∀ c ∈ method.toList, isWhitespace c = false :=
    fun c hc => (plain_of_isTokenChar (chars_of_httpMethodToken hmethod c hc)).1
  have hpathPlain : ∀ c ∈ path.toList, isWhitespace c = false :=
    fun c hc => ((chars_of_httpPathToken hpath).2 c hc).1
  refine ⟨splitOnce_append (fun hmem => ?_), splitOnce_append (fun hmem => ?_),
    (chars_of_httpPathToken hpath).1, fun c hc => ?_⟩
  · exact (ne_space_of_not_isWhitespace (hmethodPlain _ hmem)).1 rfl
  · exact (ne_space_of_not_isWhitespace (hpathPlain _ hmem)).1 rfl
  · rcases List.mem_append.mp hc with hc | hc
    · exact (ne_space_of_not_isWhitespace (hmethodPlain c hc)).2
    · exact (ne_space_of_not_isWhitespace (hpathPlain c hc)).2

end IpTools
