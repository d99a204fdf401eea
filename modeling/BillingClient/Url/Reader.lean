import BillingClient.Url.Authority

/-!
Contract: URLs read from text.

`parse` reads an absolute URL. `resolve` reads a reference, which may leave out what it
shares with a base: a reference that starts with one slash keeps the server of the
base, and an empty one all but the fragment.
-/

namespace BillingClient.Url

open BillingClient.Text

/-- The path after an authority. -/
def readPath (isSpecial : Bool) (text : List Char) : List String :=
  match text with
  | [] => if isSpecial then [""] else []
  | c :: rest =>
    if isSlash isSpecial c then readSegments isSpecial [] rest
    else readSegments isSpecial [] (c :: rest)

/-- The URL of a scheme with an authority, from what follows the `//`. -/
def readServer (scheme : String) (text : List Char) (parts : Parts) : Except UrlError Url := do
  let kind := SchemeKind.ofName scheme
  let isLast := parts.query.isNone && parts.fragment.isNone
  let (authority, path) ← readAuthority kind isLast text
  .ok ⟨scheme, some authority, .segments (readPath kind.isSpecial path),
    parts.queryText kind.isSpecial, parts.fragmentText⟩

/-- The host of a file: none is meant by `localhost`. -/
def readFileHost (text : List Char) : Except UrlError Host :=
  match text with
  | [] => .ok (.name "")
  | _ => (Host.read text).map fun host => if host = .name "localhost" then .name "" else host

/-- The URL of a file, from what follows `file:`. -/
def readFile (text : List Char) (parts : Parts) : Except UrlError Url := do
  let (host, path) ←
    if 2 ≤ (text.takeWhile (isSlash true)).length then
      let text := text.drop 2
      let hostText := text.takeWhile (!isSlash true ·)
      if isDrive hostText then pure (Host.name "", text)
      else do
        let host ← readFileHost hostText
        pure (host, text.dropWhile (!isSlash true ·))
    else pure (Host.name "", text)
  .ok ⟨"file", some ⟨"", "", host, none⟩, .segments (readFileSegments path),
    parts.queryText true, parts.fragmentText⟩

/-- The URL of a plain scheme, from what follows its colon. -/
def readPlain (scheme : String) (text : List Char) (parts : Parts) : Except UrlError Url :=
  match text with
  | '/' :: '/' :: rest => readServer scheme rest parts
  | '/' :: rest =>
    .ok ⟨scheme, none, .segments (readSegments false [] rest),
      parts.queryText false, parts.fragmentText⟩
  | _ =>
    .ok ⟨scheme, none, .rootless (String.ofList (Percent.encodeChars rootlessKeeps text)),
      parts.queryText false, parts.fragmentText⟩

/-- The URL of a scheme, from what follows its colon. -/
def readScheme (scheme : String) (text : List Char) (parts : Parts) : Except UrlError Url :=
  match SchemeKind.ofName scheme with
  | .web _ => readServer scheme (text.dropWhile (isSlash true)) parts
  | .file => readFile text parts
  | .plain => readPlain scheme text parts

def parse (text : String) : Except UrlError Url :=
  let parts := Parts.ofText text
  match divideScheme? parts.hierarchy with
  | some (scheme, rest) => readScheme scheme rest parts
  | none => .error .relativeWithoutBase

/-- The URL that keeps what a reference leaves out. -/
def relative (base : Url) (text : List Char) (parts : Parts) : Except UrlError Url :=
  let isSpecial := base.kind.isSpecial
  let slashes := (text.takeWhile (isSlash true)).length
  match base.path with
  | .rootless _ =>
    if text.isEmpty && parts.query.isNone && parts.fragment.isSome then
      .ok { base with fragment := parts.fragmentText }
    else .error .relativeToRootless
  | .segments before =>
    if text.isEmpty then
      .ok { base with
        query := (parts.queryText isSpecial).or base.query, fragment := parts.fragmentText }
    else if 2 ≤ slashes then
      readServer base.scheme
        (if text.take 2 = ['/', '/'] then text.drop 2 else text.drop slashes) parts
    else
      let before := if slashes = 1 then [] else before.dropLast
      .ok { base with
        path := .segments (readSegments isSpecial before (text.drop slashes))
        query := parts.queryText isSpecial, fragment := parts.fragmentText }

/-- Reads a reference against a base. The scheme of the base may be written before a
relative reference to a web address. -/
def resolve (base : Url) (text : String) : Except UrlError Url :=
  let parts := Parts.ofText text
  match divideScheme? parts.hierarchy with
  | none => base.relative parts.hierarchy parts
  | some (scheme, rest) =>
    match SchemeKind.ofName scheme with
    | .web _ =>
      if scheme = base.scheme && (rest.takeWhile (isSlash true)).length < 2 then
        base.relative rest parts
      else readScheme scheme rest parts
    | _ => readScheme scheme rest parts

end BillingClient.Url
