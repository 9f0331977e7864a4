/-
  The head of a request, as the server at the other end takes it apart.

  `receive` is that server: it ends lines at a line feed, with or without a carriage return before it, ends the head
  at the first empty line, and takes the whole buffer as one head or nothing.  The head that a hop writes is
  received as it was meant if and only if every field in it keeps to its line (`Hop.receive_prelude_iff_lined`).
  Path, query, host, cookies and lengths always do; a field of the caller does unless its name or its value ends
  with a line feed, which the patterns for both let through.  So a caller can break a head, and can do it in exactly
  one way (`Hop.receive_prelude_iff`).

  1. A head is a block of lines, each with its end, and an empty line behind them (`block`).  If no line is empty
     and none holds a line feed, the lines are taken off one by one, up to the empty line (`takeBlockFrom_block`).
     This is the direction in which the receiver has to be followed (`receive_block`).

  2. The other direction is cheap: whatever a receiver makes of any bytes, the fields that it reads keep to their
     lines (`lined_of_receive`).  So if a head is received as it was meant, its fields do, and it need not be known
     what becomes of a head that is broken.

  3. What stands in a head is known from `Hop.Built`.  The parts that the library makes are visible ASCII, each for
     a reason of its own: the request line from the form of URLs and queries (`isInline_of_mem_startLine`), cookies
     from their alphabet, lengths from digits.

  The assumption on the method is needed.  What becomes of one that is no token is said in the module on methods.
-/
import Courier.Proofs.Request.Fields
import Courier.Proofs.Url.Inline

namespace Courier

/-! ## The receiver

  A receiver is given a buffer that must be one whole head: a start line, the lines of the fields, and an empty line
  with nothing behind it. -/

/-- What a receiver makes of a buffer that must be one whole head: the start line and the fields. -/
def receive (b : Bytes) : Option (Text × List Header) :=
  match takeBlock b with
  | some (first :: rest, []) => (Head.readFields rest).toOption.map fun fields => (ofLatin1 first, fields)
  | _ => none

/-- **Whatever is received keeps to its line.** -/
theorem lined_of_receive {b : Bytes} {start : Text} {fields : List Header}
    (h : receive b = some (start, fields)) : ∀ f ∈ fields, f.Lined := by
  rw [receive] at h
  split at h
  · rename_i rest _
    cases hfields : Head.readFields rest with
    | error e =>
      rw [hfields] at h
      exact absurd h (by simp [Except.toOption])
    | ok read =>
      rw [hfields] at h
      rw [← (Prod.mk.inj (Option.some.inj h)).2]
      exact Header.lined_of_readFields hfields
  · exact absurd h (by simp)

/-- What ends a line. -/
def lineEnd : Text := ['\r', '\n']

/-- Lines, each with its end, and the empty line after them. -/
def block (lines : List Text) : Text := lines.flatMap (fun line => line ++ lineEnd) ++ lineEnd

theorem octets_block_cons (line : Text) (lines : List Text) :
    octets (block (line :: lines)) = octets line ++ 13 :: 10 :: octets (block lines) := by
  rw [block, List.flatMap_cons, List.append_assoc, List.append_assoc, octets_append, octets_append]
  rfl

/-- A line without a line feed is taken off as it was written. -/
theorem takeBlockFrom_line {line : Bytes} (h : (10 : UInt8) ∉ line) (lines : List Bytes) (rest : Bytes) :
    takeBlockFrom lines (line ++ 13 :: 10 :: rest) =
      if line.isEmpty then some (lines.reverse, rest) else takeBlockFrom (line :: lines) rest := by
  have hmark : (10 : UInt8) ∉ line ++ [13] := by
    rw [List.mem_append, List.mem_singleton]
    exact fun hm => hm.elim h (by decide)
  have hcut : cut 10 (line ++ 13 :: 10 :: rest) = (line ++ [13], some rest) := by
    rw [← cut_append_mark hmark rest, List.append_assoc]
    rfl
  have hdrop : dropCarriageReturn (line ++ [13]) = line := by
    rw [dropCarriageReturn, List.getLast?_concat, if_pos rfl, List.dropLast_concat]
  rw [takeBlockFrom_of_cut hcut, hdrop]

/-- **Lines that are not empty and hold no line feed are taken off one by one, up to the empty line.** -/
theorem takeBlockFrom_block {lines : List Text} (hne : ∀ line ∈ lines, line ≠ [])
    (hinline : ∀ line ∈ lines, (10 : UInt8) ∉ octets line) (done : List Bytes) :
    takeBlockFrom done (octets (block lines)) = some (done.reverse ++ lines.map octets, []) := by
  induction lines generalizing done with
  | nil =>
    -- the empty line at the end
    have hend := takeBlockFrom_line (List.not_mem_nil : (10 : UInt8) ∉ []) done []
    rw [List.map_nil, List.append_nil]
    exact hend
  | cons line rest ih =>
    have hline : (octets line).isEmpty = false := by
      cases line with
      | nil => exact absurd rfl (hne [] (List.mem_cons_self ..))
      | cons c t => rfl
    rw [octets_block_cons, takeBlockFrom_line (hinline line (List.mem_cons_self ..)), hline]
    rw [if_neg Bool.false_ne_true, ih (fun l hl => hne l (List.mem_cons_of_mem _ hl))
      (fun l hl => hinline l (List.mem_cons_of_mem _ hl)), List.reverse_cons, List.append_assoc]
    rfl

/-- **A start line and fields that keep to their lines are received.** -/
theorem receive_block {start : Text} {fields : List Header} (hne : start ≠ [])
    (hstart : ∀ c ∈ start, isInline c = true) (hl : ∀ f ∈ fields, f.Lined)
    (hlatin : ∀ c ∈ block (start :: fields.map Header.text), Narrow.latin1.holds c = true) :
    receive (octets (block (start :: fields.map Header.text))) = some (start, fields.map Header.trimmed) := by
  have hlines : ∀ line ∈ start :: fields.map Header.text, ∀ c ∈ line, Narrow.latin1.holds c = true := by
    intro line hline c hc
    refine hlatin c (List.mem_append_left _ (List.mem_flatMap.mpr ⟨line, hline, ?_⟩))
    exact List.mem_append_left _ hc
  have hfield : ∀ f ∈ fields, ∀ c ∈ f.text, Narrow.latin1.holds c = true := fun f hf =>
    hlines _ (List.mem_cons_of_mem _ (List.mem_map_of_mem hf))
  have hinline : ∀ line ∈ start :: fields.map Header.text, (10 : UInt8) ∉ octets line := by
    intro line hline
    refine notMem_octets (c := '\n') (by decide) (hlines line hline) fun hfeed => ?_
    rcases List.mem_cons.mp hline with rfl | hmem
    · exact ne_of_isInline (hstart _ hfeed) rfl
    · obtain ⟨f, hf, rfl⟩ := List.mem_map.mp hmem
      exact Header.notMem_text (hl f hf) hfeed
  -- an empty line would end the head
  have hnonempty : ∀ line ∈ start :: fields.map Header.text, line ≠ [] := by
    intro line hline
    rcases List.mem_cons.mp hline with rfl | hmem
    · exact hne
    · obtain ⟨f, _, rfl⟩ := List.mem_map.mp hmem
      exact Header.text_ne_nil f
  have hread := Header.readFields_text hl hfield
  rw [receive, takeBlock, takeBlockFrom_block hnonempty hinline, List.reverse_nil, List.nil_append,
    List.map_cons, List.map_map]
  show (Head.readFields (fields.map fun f => octets f.text)).toOption.map _ = _
  rw [hread, ofLatin1_octets (hlines start (List.mem_cons_self ..))]
  rfl

namespace Hop

/-! ## What a head is written from

  The text of a head is a block of lines, each of them from one field. -/

/-- The request line without its end. -/
def startLine (hop : Hop) (method : Text) : Text :=
  method ++ ' ' :: hop.url.requestPath ++ hop.query ++ " HTTP/1.1".toList

/-- The fields of the head: those of the hop, after a host field when the hop has none. -/
def headFields (hop : Hop) : List Header :=
  if Header.contains hop.headers "host".toList then hop.headers
  else { name := "Host".toList, value := hop.url.hostAndPort } :: hop.headers

/-- The text of a head is the block of its lines. -/
theorem preludeText_eq {hop : Hop} {method text : Text} (h : hop.preludeText method = .ok text) :
    text = block (hop.startLine method :: hop.headFields.map Header.text) := by
  have hline : hop.requestLine method = hop.startLine method ++ lineEnd :=
    (List.append_assoc (method ++ ' ' :: hop.url.requestPath ++ hop.query) " HTTP/1.1".toList lineEnd).symm
  have hfields (fields : List Header) :
      fields.flatMap Header.line = (fields.map Header.text).flatMap fun line => line ++ lineEnd := by
    rw [List.flatMap_map]
    rfl
  rw [preludeText, hostLine] at h
  rw [block, List.flatMap_cons, ← hline, headFields]
  split at h
  · -- the hop names its host itself
    rename_i hhost
    rw [if_pos hhost, ← hfields, ← Except.ok.inj h, List.append_nil]
    rfl
  · rename_i hhost
    rw [if_neg hhost, List.map_cons, List.flatMap_cons, ← hfields]
    rw [Url.hostHeader] at h
    cases hascii : Narrow.ascii.write hop.url.hostAndPort with
    | error e =>
      rw [hascii] at h
      exact nomatch h
    | ok b =>
      rw [hascii] at h
      rw [← Except.ok.inj h, List.append_assoc (hop.requestLine method) _ (hop.headers.flatMap Header.line)]
      rfl

theorem prelude_eq {hop : Hop} {method : Text} {b : Bytes} (h : hop.prelude method = .ok b) :
    b = octets (block (hop.startLine method :: hop.headFields.map Header.text)) ∧
      ∀ c ∈ block (hop.startLine method :: hop.headFields.map Header.text), Narrow.latin1.holds c = true := by
  rw [prelude] at h
  obtain ⟨text, htext, h⟩ := exists_of_bind_eq_ok h
  rw [← preludeText_eq htext]
  split at h
  · rename_i hwrite
    rw [← Except.ok.inj h]
    exact ⟨(Narrow.of_write hwrite).2, (Narrow.of_write hwrite).1⟩
  · exact absurd h (by simp)

/-- **A head is received as it was meant if and only if all its fields keep to their lines.** -/
theorem receive_prelude_iff_lined {hop : Hop} {method : Text} {b : Bytes} (h : hop.prelude method = .ok b)
    (hstart : ∀ c ∈ hop.startLine method, isInline c = true) :
    receive b = some (hop.startLine method, hop.headFields.map Header.trimmed) ↔
      ∀ f ∈ hop.headFields, f.Lined := by
  obtain ⟨rfl, hlatin⟩ := prelude_eq h
  constructor
  · -- whatever is received keeps to its line, and the trimmed field does so only if the field does
    intro hreceive f hf
    exact Header.lined_trimmed_iff.mp (lined_of_receive hreceive _ (List.mem_map_of_mem hf))
  · intro hl
    refine receive_block ?_ hstart hl hlatin
    rw [startLine]
    exact List.append_ne_nil_of_right_ne_nil _ (by decide)

/-! ## The fields of a hop

  What a hop adds to the fields of its caller keeps to its line, whatever the jar, the URL and the query hold.  So a
  head is broken by a field of the caller or by nothing. -/

theorem lined_of_mem_cookieFields {jar : Option Jar} {hostname : Text} {url : Url} {f : Header}
    (h : f ∈ cookieFields jar hostname url) : f.Lined := by
  cases jar with
  | none => exact absurd h List.not_mem_nil
  | some jar =>
    have hfields : f ∈ jar.fieldsFor hostname url.requestPath url.isSecure := h
    rw [Jar.fieldsFor_eq] at hfields
    obtain ⟨c, _, rfl⟩ := List.mem_map.mp hfields
    have hname : Header.isToken "Cookie".toList = true := by decide
    exact ⟨hname, fun _ hd => isInline_of_isVisible (Cookie.isVisible_of_mem_pairText hd)⟩

theorem lined_of_mem_ownLength {headers : List Header} {body : Body} {f : Header} (h : f ∈ ownLength headers body) :
    f.Lined := by
  obtain ⟨_, _, n, _, rfl⟩ := mem_ownLength_iff.mp h
  have hname : Header.isToken "Content-Length".toList = true := by decide
  exact ⟨hname, fun c hc => isInline_of_isVisible (isVisible_of_mem_decimalInt hc)⟩

/-- Of the fields of a head, only the caller's may leave their lines. -/
theorem lined_headFields_iff {method : Text} {headers : List Header} {query : Query} {timeouts : Timeouts}
    {jar : Option Jar} {url : Url} {body : Body} {hop : Hop} (hurl : url.Lined)
    (h : build method headers query timeouts jar url body = .ok hop) :
    (∀ f ∈ hop.headFields, f.Lined) ↔ ∀ f ∈ headers, f.Lined := by
  have hbuilt := built_of_build h
  have hall : (∀ f ∈ hop.headers, f.Lined) ↔ ∀ f ∈ headers, f.Lined := by
    rw [hbuilt.headers]
    constructor
    · exact fun hl f hf => hl f (List.mem_append_left _ (List.mem_append_left _ hf))
    · intro hl f hf
      rcases List.mem_append.mp hf with hf | hf
      · exact (List.mem_append.mp hf).elim (hl f) lined_of_mem_cookieFields
      · exact lined_of_mem_ownLength hf
  rw [← hall, headFields]
  split
  · exact Iff.rfl
  · have hname : Header.isToken "Host".toList = true := by decide
    rw [List.forall_mem_cons, hbuilt.url]
    exact and_iff_right ⟨hname, hurl.hostAndPort⟩

/-- A request line holds no line control: a token, visible ASCII, and the version. -/
theorem isInline_of_mem_startLine {method : Text} {headers : List Header} {query : Query} {timeouts : Timeouts}
    {jar : Option Jar} {url : Url} {body : Body} {hop : Hop} (hmethod : Header.isToken method = true)
    (hurl : url.Lined) (h : build method headers query timeouts jar url body = .ok hop) {c : Char}
    (hc : c ∈ hop.startLine method) : isInline c = true := by
  have hbuilt := built_of_build h
  rw [startLine, hbuilt.url, hbuilt.query] at hc
  rcases List.mem_append.mp hc with hc | hc
  · rcases List.mem_append.mp hc with hc | hc
    · rcases List.mem_append.mp hc with hc | hc
      · exact isInline_of_isVisible (isVisible_of_isTokenChar ((isToken_iff.mp hmethod).2 c hc))
      · rcases List.mem_cons.mp hc with rfl | hc
        · decide
        · exact isInline_of_isVisible (hurl.requestPath c hc)
    · exact isInline_of_isVisible (hurl.combineQuery query c hc)
  · have hversion : " HTTP/1.1".toList.all isInline = true := by decide
    exact List.all_eq_true.mp hversion c hc

/-- **A caller can break a head in exactly one way.**  For a method that is a token, a URL that is read from any
    text, fields that are let through, and any query and jar, the head that is written is received whole, as its
    request line, a host field if and only if the hop has none, and then the fields of the hop in order, each up
    to the padding around its value, if and only if no field of the caller has a name or a value that ends with a
    line feed. -/
theorem receive_prelude_iff {method text : Text} {url : Url} {pairs : List (Scalar × Scalar)}
    {headers : List Header} {query : Query} {timeouts : Timeouts} {jar : Option Jar} {body : Body} {hop : Hop}
    {b : Bytes} (hmethod : Header.isToken method = true) (hurl : Url.parse text = .ok url)
    (hheaders : Header.ofPairs pairs = .ok headers)
    (hbuild : build method headers query timeouts jar url body = .ok hop) (hb : hop.prelude method = .ok b) :
    receive b = some
        (method ++ ' ' :: url.requestPath ++ url.combineQuery query ++ " HTTP/1.1".toList,
          (if Header.contains hop.headers "host".toList then hop.headers
            else { name := "Host".toList, value := url.hostAndPort } :: hop.headers).map Header.trimmed) ↔
      ∀ f ∈ headers, f.name.getLast? ≠ some '\n' ∧ f.value.getLast? ≠ some '\n' := by
  have hlined := Url.lined_of_parse hurl
  have hstart := fun c => isInline_of_mem_startLine (c := c) hmethod hlined hbuild
  have hreceive := receive_prelude_iff_lined hb hstart
  rw [lined_headFields_iff hlined hbuild] at hreceive
  have hbuilt := built_of_build hbuild
  rw [startLine, headFields, hbuilt.url, hbuilt.query] at hreceive
  refine hreceive.trans (forall_congr' fun f => forall_congr' fun hf => ?_)
  obtain ⟨pair, _, hpair⟩ := exists_of_mem_mapM hheaders hf
  exact Header.lined_iff_of_ofPair hpair

/-- A hop with a field of the caller, a query and a body of two octets. -/
def fieldHop : Hop :=
  { url := { scheme := "http".toList, rawHost := "h".toList, path := "/a%20b".toList, query := some "x".toList }
    isChunked := false, isHead := false, hostname := "h".toList, query := "?x&y=%0A".toList
    headers := [{ name := "X".toList, value := " v\t".toList },
      { name := "Content-Length".toList, value := "2".toList }]
    callerHeaders := [{ name := "X".toList, value := " v\t".toList }], timeouts := {} }

/-- The octets of its head. -/
def fieldHead : Bytes :=
  octets "PUT /a%20b?x&y=%0A HTTP/1.1\r\nHost: h\r\nX:  v\t\r\nContent-Length: 2\r\n\r\n".toList

/-- Such a head is received, with the padding around the value gone. -/
theorem receive_fieldHead :
    Url.parse "http://h:80/a b?x".toList = .ok fieldHop.url ∧
    Header.ofPairs [(.text "X".toList, .text " v\t".toList)] = .ok fieldHop.callerHeaders ∧
    build "PUT".toList fieldHop.callerHeaders (.encoded "y=\n".toList) {} (some {}) fieldHop.url
      (.ofBytes [1, 2]) = .ok fieldHop ∧
    fieldHop.prelude "PUT".toList = .ok fieldHead ∧
    receive fieldHead = some ("PUT /a%20b?x&y=%0A HTTP/1.1".toList,
      [{ name := "Host".toList, value := "h".toList }, { name := "X".toList, value := "v".toList },
        { name := "Content-Length".toList, value := "2".toList }]) := by
  have hmethod : Header.isToken "PUT".toList = true := by decide
  have hurl : Url.parse "http://h:80/a b?x".toList = .ok fieldHop.url := rfl
  have hheaders : Header.ofPairs [(.text "X".toList, .text " v\t".toList)] = .ok fieldHop.callerHeaders := rfl
  have hbuild : build "PUT".toList fieldHop.callerHeaders (.encoded "y=\n".toList) {} (some {}) fieldHop.url
      (.ofBytes [1, 2]) = .ok fieldHop := rfl
  have hprelude : fieldHop.prelude "PUT".toList = .ok fieldHead := rfl
  refine ⟨hurl, hheaders, hbuild, hprelude, ?_⟩
  exact (receive_prelude_iff hmethod hurl hheaders hbuild hprelude).mpr (by decide)

/-- A value with a line feed at its end is let through, and ends the head before its last line. -/
theorem receive_prelude_of_lineFeed :
    ∃ url headers hop b,
      Url.parse "http://h/".toList = .ok url ∧
      Header.ofPairs [(.text "X".toList, .text "v\n".toList)] = .ok headers ∧
      build "GET".toList headers .absent {} (some {}) url .empty = .ok hop ∧
      hop.prelude "GET".toList = .ok b ∧ receive b = none :=
  ⟨_, _, _, _, rfl, rfl, rfl, rfl, by decide +kernel⟩

end Hop

end Courier
