/-
  The fields of a hop, by where they come from.

  A hop has the caller's fields as they are, then the cookies that go with its URL, then a length when the body has
  a known size and the caller framed it in no way (`Hop.Built`).  That structure is all that other modules know of
  making a hop: it names every part of the result, and `built_of_build` is its only proof.

  What is added has names of its own: cookies are named Cookie (`name_of_mem_cookieFields`) and a length
  Content-Length (`name_of_mem_ownLength`).  So of all that is in a hop only the caller's fields can name the host
  or the coding, and only the caller's and that one length can name the length.  Questions about the fields of a hop
  under a name are therefore questions about the fields of its caller; `Built.contains_host` is one of them.

  The last part is about redirects that drop the framing fields of the caller.  Dropping them twice is dropping them
  once, and nothing that looks them up finds them afterwards (`contains_unframed`, `asksChunked_unframed`), in
  whatever case their names are written.  A hop that is made from such fields gets a length whenever its body has a
  size (`ownLength_of_unframed`), and a body that was dropped has none.
-/
import Courier.Request.Hop
import Courier.Proofs.Cookie.Field

namespace Courier

namespace Header

variable {headers more : List Header} {name : Text}

theorem contains_iff : contains headers name = true ↔ ∃ h ∈ headers, h.hasName name = true := by
  rw [contains, valueOf?, Option.isSome_map, List.find?_isSome]

/-- A name is in two lists when it is in one of them. -/
theorem contains_append : contains (headers ++ more) name = (contains headers name || contains more name) := by
  rw [Bool.eq_iff_iff, Bool.or_eq_true, contains_iff, contains_iff, contains_iff]
  constructor
  · rintro ⟨h, hmem, hname⟩
    rcases List.mem_append.mp hmem with hmem | hmem
    · exact Or.inl ⟨h, hmem, hname⟩
    · exact Or.inr ⟨h, hmem, hname⟩
  · rintro (⟨h, hmem, hname⟩ | ⟨h, hmem, hname⟩)
    · exact ⟨h, List.mem_append_left _ hmem, hname⟩
    · exact ⟨h, List.mem_append_right _ hmem, hname⟩

/-- Fields of one name answer to no other. -/
theorem contains_of_named {own : Text} (h : ∀ f ∈ headers, f.name = own) (hne : (lower own == lower name) = false) :
    contains headers name = false := by
  rw [← Bool.not_eq_true, contains_iff]
  rintro ⟨f, hmem, hname⟩
  rw [hasName, h f hmem, hne] at hname
  exact Bool.noConfusion hname

end Header

namespace Hop

/-! ## What a hop is made of

  Everything that a hop has was put there by the function that builds it, from the caller, the URL, the jar and the
  body.  It is written down once (`Hop.Built`), and proofs about hops read it off there. -/

/-- The cookies that go with a URL. -/
def cookieFields (jar : Option Jar) (hostname : Text) (url : Url) : List Header :=
  match jar with
  | none => []
  | some jar => jar.fieldsFor hostname url.requestPath url.isSecure

/-- The length that is added to the fields of a caller. -/
def ownLength (headers : List Header) (body : Body) : List Header :=
  if asksChunked headers || Header.contains headers lengthName then [] else lengthFields body

/-- All of a hop that was made from these parts. -/
structure Built (method : Text) (caller : List Header) (query : Query) (timeouts : Timeouts) (jar : Option Jar)
    (target : Url) (body : Body) (hop : Hop) : Prop where
  url : hop.url = target
  hostname : hostnameOf target = .ok hop.hostname
  query : hop.query = target.combineQuery query
  timeouts : hop.timeouts = timeouts
  isHead : hop.isHead = (lower method == "head".toList)
  isChunked : hop.isChunked = asksChunked caller
  callerHeaders : hop.callerHeaders = caller
  headers : hop.headers = caller ++ cookieFields jar hop.hostname target ++ ownLength caller body

variable {method : Text} {headers : List Header} {query : Query} {timeouts : Timeouts} {jar : Option Jar}
  {url : Url} {body : Body} {hop : Hop}

/-- **What a hop is made of.** -/
theorem built_of_build (h : build method headers query timeouts jar url body = .ok hop) :
    Built method headers query timeouts jar url body hop := by
  rw [build] at h
  obtain ⟨hostname, hname, h⟩ := exists_of_bind_eq_ok h
  rw [← Except.ok.inj h]
  exact ⟨rfl, hname, rfl, rfl, rfl, rfl, rfl, rfl⟩

/-- What is added for cookies is named Cookie. -/
theorem name_of_mem_cookieFields {hostname : Text} {f : Header} (h : f ∈ cookieFields jar hostname url) :
    f.name = "Cookie".toList := by
  cases jar with
  | none => exact absurd h List.not_mem_nil
  | some jar => exact Jar.name_of_mem_fieldsFor h

/-- When a length is added, and which. -/
theorem mem_ownLength_iff {f : Header} :
    f ∈ ownLength headers body ↔
      asksChunked headers = false ∧ Header.contains headers lengthName = false ∧
        ∃ n, body.size = some n ∧ f = { name := "Content-Length".toList, value := decimalInt n } := by
  rw [ownLength, lengthFields]
  -- a caller that asks for chunks gets none, one that gives a length gets none, and a body without a size has none
  cases hchunked : asksChunked headers with
  | true => simp
  | false =>
    cases hlength : Header.contains headers lengthName with
    | true => simp
    | false =>
      cases hsize : body.size with
      | none => simp
      | some n => simp

/-- One length is added at most. -/
theorem length_ownLength_le (headers : List Header) (body : Body) : (ownLength headers body).length ≤ 1 := by
  rw [ownLength, lengthFields]
  split
  · exact Nat.zero_le 1
  · split
    · exact Nat.le_refl 1
    · exact Nat.zero_le 1

theorem name_of_mem_ownLength {f : Header} (h : f ∈ ownLength headers body) : f.name = "Content-Length".toList := by
  obtain ⟨_, _, n, _, rfl⟩ := mem_ownLength_iff.mp h
  rfl

/-- Whether a hop names a host is for its caller to say. -/
theorem Built.contains_host (h : Built method headers query timeouts jar url body hop) :
    Header.contains hop.headers "host".toList = Header.contains headers "host".toList := by
  have hcookies : Header.contains (cookieFields jar hop.hostname url) "host".toList = false :=
    Header.contains_of_named (fun _ => name_of_mem_cookieFields) (by decide)
  have hlength : Header.contains (ownLength headers body) "host".toList = false :=
    Header.contains_of_named (fun _ => name_of_mem_ownLength) (by decide)
  rw [h.headers, Header.contains_append, Header.contains_append, hcookies, hlength, Bool.or_false, Bool.or_false]

/-! ## Without framing fields

  A redirect that drops the body drops the fields that frame it as well, and then the length of what is left is all
  that frames it. -/

theorem isFraming_iff {h : Header} :
    isFraming h = true ↔ h.hasName lengthName = true ∨ h.hasName codingName = true := by
  rw [isFraming, Bool.or_eq_true]

/-- A name of framing is not found any more. -/
theorem contains_unframed (headers : List Header) (name : Text)
    (hname : ∀ h : Header, h.hasName name = true → isFraming h = true) :
    Header.contains (headers.filter fun h => !isFraming h) name = false := by
  rw [← Bool.not_eq_true, Header.contains_iff]
  rintro ⟨h, hmem, hh⟩
  have hkept := (List.mem_filter.mp hmem).2
  rw [hname h hh] at hkept
  exact Bool.noConfusion hkept

/-- Without the framing fields nobody asks for chunks. -/
theorem asksChunked_unframed (headers : List Header) :
    asksChunked (headers.filter fun h => !isFraming h) = false := by
  have hnone := contains_unframed headers codingName fun _ h => isFraming_iff.mpr (Or.inr h)
  rw [Header.contains, Option.isSome_eq_false_iff, Option.isNone_iff_eq_none] at hnone
  rw [asksChunked, hnone]
  rfl

/-- For a caller that frames nothing, the length of the body is the one framing field that a hop adds. -/
theorem ownLength_of_unframed {headers : List Header} (h : ∀ f ∈ headers, isFraming f = false) (body : Body) :
    asksChunked headers = false ∧ ownLength headers body = lengthFields body := by
  have hself : (headers.filter fun f => !isFraming f) = headers :=
    List.filter_eq_self.mpr fun f hf => by rw [h f hf]; rfl
  have hchunked := asksChunked_unframed headers
  have hlength := contains_unframed headers lengthName fun _ h => isFraming_iff.mpr (Or.inl h)
  rw [hself] at hchunked hlength
  refine ⟨hchunked, ?_⟩
  rw [ownLength, hchunked, hlength]
  rfl

end Hop

end Courier
