/-
  The cookie jar: cookies by domain, path and name.

  The jar is iterated in the order in which domains, paths within a domain and names within a path were
  first stored.  Replacing a cookie keeps its place, and removing one keeps the places of its path and its
  domain, even when they are empty.
-/
import Courier.Cookie.Basic

namespace Courier

/-- A jar of cookies. -/
structure Jar where
  domains : List (Text × List (Text × List (Text × Cookie))) := []
  deriving Repr

namespace Jar

/-- Changes the value under a key, in its place or at the end. -/
def alterAt {α : Type} (f : Option α → α) (key : Text) : List (Text × α) → List (Text × α)
  | [] => [(key, f none)]
  | (k, v) :: rest => if k = key then (k, f (some v)) :: rest else (k, v) :: alterAt f key rest

/-- Changes the value under a key, if there is one. -/
def modifyAt {α : Type} (f : α → α) (key : Text) : List (Text × α) → List (Text × α)
  | [] => []
  | (k, v) :: rest => if k = key then (k, f v) :: rest else (k, v) :: modifyAt f key rest

/-- Stores a cookie under its own domain, path and name. -/
def insert (jar : Jar) (c : Cookie) : Jar :=
  { domains := alterAt (fun paths => alterAt (fun names => alterAt (fun _ => c) c.name (names.getD []))
      c.path (paths.getD [])) c.domain jar.domains }

/-- Removes the cookie under a key, if there is one. -/
def erase (jar : Jar) (key : Cookie.Key) : Jar :=
  { domains := modifyAt (modifyAt (List.eraseP fun entry => entry.1 == key.name) key.path) key.domain
      jar.domains }

/-- The cookies in the order of the jar. -/
def toList (jar : Jar) : List Cookie :=
  jar.domains.flatMap fun d => d.2.flatMap fun p => p.2.map (·.2)

/-- The cookies that go with a request, in the order of the jar. -/
def select (jar : Jar) (hostname path : Text) (secure : Bool) : List Cookie :=
  jar.toList.filter fun c => c.goesWith hostname path secure

end Jar

end Courier
