/-
  Chunked framing and an added length.

  A hop is sent in chunks, and gets no length of its own, when its caller asks for a coding.  Asking is read off the
  first coding field alone, while all of the caller's fields go out in the head.  So the two framings are kept apart
  (`Hop.KeptApart`) for a caller whose first coding field says something if any does, and for no other: behind an
  empty first field (`Hop.Shadowed`) a coding is neither seen nor followed, and the head gets the length as well.

  * `NamesCoding` is what a receiver of the head would look at: some coding field that is not empty.  `asksChunked`
    is what the program looks at.  The two agree just when nothing is in the shadow (`asksChunked_of_namesCoding`,
    `asksChunked_of_shadowed`).

  * What a hop is made of is known from `Hop.Built`, so the equivalence takes a few lines (`Built.keptApart_iff`),
    and in the other case the fields can be written down (`Built.of_shadowed`).

  Making a hop can fail only for want of a host name, which has to do with neither framing.
  `keptApart_iff_of_build` therefore needs no assumption, and at the end stands a head that a receiver may read in
  two ways.
-/
import Courier.Proofs.Request.Fields
import Courier.Proofs.Header.Line

namespace Courier

namespace Hop

/-! ## What a caller asks for

  Chunks are sent when the first coding field says so, and a caller may give more than one.  The two come apart when
  an empty coding field stands in front of another one. -/

/-- Some coding field of a caller is not empty. -/
def NamesCoding (headers : List Header) : Prop := ∃ v ∈ Header.valuesOf headers codingName, v ≠ []

/-- A coding stands behind an empty coding field. -/
def Shadowed (headers : List Header) : Prop :=
  (Header.valuesOf headers codingName).head? = some [] ∧ NamesCoding headers

/-- The framings of a hop are kept apart: it is sent in chunks if its caller names a coding, and then it has the
    fields of the caller and the cookies and no others. -/
structure KeptApart (headers : List Header) (jar : Option Jar) (url : Url) (hop : Hop) : Prop where
  chunked : hop.isChunked = true ↔ NamesCoding headers
  added : NamesCoding headers → hop.headers = headers ++ cookieFields jar hop.hostname url

variable {headers : List Header} {name : Text}

/-- A caller asks for chunks when its first coding field is not empty. -/
theorem asksChunked_iff :
    asksChunked headers = true ↔ ∃ v, (Header.valuesOf headers codingName).head? = some v ∧ v ≠ [] := by
  rw [asksChunked, Header.valueOf?_eq_head?]
  cases (Header.valuesOf headers codingName).head? with
  | none => simp
  | some v => simp

theorem namesCoding_of_asksChunked (h : asksChunked headers = true) : NamesCoding headers := by
  obtain ⟨v, hfirst, hv⟩ := asksChunked_iff.mp h
  exact ⟨v, List.mem_of_mem_head? hfirst, hv⟩

/-- A coding that is not in the shadow of an empty field is asked for. -/
theorem asksChunked_of_namesCoding (h : NamesCoding headers) (hshadow : ¬ Shadowed headers) :
    asksChunked headers = true := by
  obtain ⟨v, hmem, _⟩ := id h
  obtain ⟨first, hfirst⟩ : ∃ first, (Header.valuesOf headers codingName).head? = some first :=
    Option.isSome_iff_exists.mp (List.isSome_head?.mpr (List.ne_nil_of_mem hmem))
  refine asksChunked_iff.mpr ⟨first, hfirst, ?_⟩
  rintro rfl
  exact hshadow ⟨hfirst, h⟩

theorem asksChunked_of_shadowed (h : Shadowed headers) : asksChunked headers = false := by
  rw [← Bool.not_eq_true, asksChunked_iff]
  rintro ⟨v, hfirst, hv⟩
  exact hv (Option.some.inj (hfirst.symm.trans h.1))

/-! ## What is made of it

  In both directions: framings are kept apart unless a coding is in the shadow of an empty one, and in the shadow a
  length is sent beside it. -/

variable {method : Text} {query : Query} {timeouts : Timeouts} {jar : Option Jar} {url : Url} {body : Body} {hop : Hop}

/-- **The framings of a hop are kept apart** unless its caller hides a coding. -/
theorem Built.keptApart_iff (h : Built method headers query timeouts jar url body hop) :
    KeptApart headers jar url hop ↔ ¬ Shadowed headers := by
  constructor
  · -- a coding is named and the hop is not in chunks
    intro hapart hshadow
    have hchunked := hapart.chunked.mpr hshadow.2
    rw [h.isChunked, asksChunked_of_shadowed hshadow] at hchunked
    exact Bool.noConfusion hchunked
  · intro hshadow
    refine ⟨?_, fun hcoding => ?_⟩
    · rw [h.isChunked]
      exact ⟨namesCoding_of_asksChunked, fun hcoding => asksChunked_of_namesCoding hcoding hshadow⟩
    · have hnone : ownLength headers body = [] := by
        rw [ownLength, asksChunked_of_namesCoding hcoding hshadow]
        rfl
      rw [h.headers, hnone, List.append_nil]

/-- In the shadow of an empty field a coding counts for nothing: the hop is as it would be without it. -/
theorem Built.of_shadowed (h : Built method headers query timeouts jar url body hop) (hshadow : Shadowed headers) :
    hop.isChunked = false ∧
      hop.headers = headers ++ cookieFields jar hop.hostname url ++
        if Header.contains headers lengthName then [] else lengthFields body := by
  have hunasked := asksChunked_of_shadowed hshadow
  refine ⟨h.isChunked.trans hunasked, ?_⟩
  rw [h.headers, ownLength, hunasked, Bool.false_or]

/-- **Framings apart.**  For all fields of a caller, every method, query, jar, URL and body: making a hop fails only
    for a host that has no name, and otherwise chunked framing and an added length are kept apart exactly for the
    callers that hide no coding behind an empty coding field.  For those that do, the hop is not chunked, and a body
    of a known size gets its length next to the coding that the caller names. -/
theorem keptApart_iff_of_build (method : Text) (headers : List Header) (query : Query) (timeouts : Timeouts)
    (jar : Option Jar) (url : Url) (body : Body) :
    (∃ e, hostnameOf url = .error e ∧ build method headers query timeouts jar url body = .error e) ∨
      ∃ hop, build method headers query timeouts jar url body = .ok hop ∧
        (KeptApart headers jar url hop ↔ ¬ Shadowed headers) ∧
        (Shadowed headers → hop.isChunked = false ∧
          hop.headers = headers ++ cookieFields jar hop.hostname url ++
            if Header.contains headers lengthName then [] else lengthFields body) := by
  cases hname : hostnameOf url with
  | error e =>
    refine Or.inl ⟨e, rfl, ?_⟩
    rw [build, hname]
    rfl
  -- with a host name there is a hop, whatever else it is made from
  | ok hostname =>
    right
    obtain ⟨hop, hbuild⟩ : ∃ hop, build method headers query timeouts jar url body = .ok hop := by
      rw [build, hname]
      exact ⟨_, rfl⟩
    have hbuilt := built_of_build hbuild
    exact ⟨hop, hbuild, hbuilt.keptApart_iff, hbuilt.of_shadowed⟩

/-- A caller whose first coding field is empty and whose second one is not. -/
def shadowedPairs : List (Scalar × Scalar) :=
  [(.text "Transfer-Encoding".toList, .text []), (.text "Transfer-Encoding".toList, .text "chunked".toList)]

/-- The head that is written for it, with a body of three octets. -/
def shadowedHead : Bytes :=
  octets ("POST / HTTP/1.1\r\nHost: h\r\nTransfer-Encoding: \r\nTransfer-Encoding: chunked\r\n".toList ++
    "Content-Length: 3\r\n\r\n".toList)

/-- Behind an empty coding field, the coding and a length go out in one head. -/
theorem framed_twice_of_shadowed :
    ∃ headers url hop, Header.ofPairs shadowedPairs = .ok headers ∧ Url.parse "http://h/".toList = .ok url ∧
      build "POST".toList headers .absent {} none url (.ofBytes [97, 98, 99]) = .ok hop ∧
      hop.prelude "POST".toList = .ok shadowedHead ∧ hop.isChunked = false ∧ ¬ KeptApart headers none url hop := by
  let headers : List Header :=
    [{ name := "Transfer-Encoding".toList, value := [] },
      { name := "Transfer-Encoding".toList, value := "chunked".toList }]
  let url : Url := { scheme := "http".toList, rawHost := ['h'], path := ['/'] }
  have hshadow : Shadowed headers := ⟨by decide +kernel, "chunked".toList, by decide +kernel, by decide⟩
  obtain ⟨hop, hbuild⟩ : ∃ hop, build "POST".toList headers .absent {} none url (.ofBytes [97, 98, 99]) = .ok hop :=
    ⟨_, rfl⟩
  have hbuilt := built_of_build hbuild
  have hprelude : (build "POST".toList headers .absent {} none url (.ofBytes [97, 98, 99])).bind
      (fun hop => hop.prelude "POST".toList) = .ok shadowedHead := by decide +kernel
  rw [hbuild] at hprelude
  exact ⟨headers, url, hop, by decide +kernel, by decide +kernel, hbuild, hprelude, (hbuilt.of_shadowed hshadow).1,
    mt hbuilt.keptApart_iff.mp (not_not.mpr hshadow)⟩

end Hop

end Courier
