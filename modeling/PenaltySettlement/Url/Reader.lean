import PenaltySettlement.Number.Power
import PenaltySettlement.Url.Host

/-!
# Reading addresses

An address is read leniently: blanks and controls around it and tabs and line breaks inside it are
passed over, a backslash counts as a slash where the scheme is well known, steps within the path are
taken, and what a part cannot hold is percent encoded. The path of a file is the one place where a
tab or a line break counts: behind the colon of a drive it ends the segment.

## Main definitions

* `Url.parse` — reading an address.
-/

set_option autoImplicit false

namespace PenaltySettlement.Url

/-- The text without blanks and controls around it. -/
def trimmed (text : String) : List Char :=
  let outer (c : Char) : Bool := c.toNat ≤ 0x20
  ((text.toList.dropWhile outer).reverse.dropWhile outer).reverse

/-- The scheme at the start, in lower case, and the text behind its colon. -/
def splitScheme (text : List Char) : Option (String × List Char) :=
  let isSchemeChar (c : Char) : Bool := c.isAlphanum || c == '+' || c == '-' || c == '.'
  match text.takeWhile isSchemeChar, text.dropWhile isSchemeChar with
  | c :: cs, ':' :: rest =>
    if c.isAlpha then some ((String.ofList (c :: cs)).toLower, rest) else none
  | _, _ => none

/-- Whether a character is a slash for a scheme. -/
def isSlash (special : Bool) (c : Char) : Bool := c == '/' || (special && c == '\\')

/-- Whether a character ends the part of an address that names its host. -/
def endsAuthority (special : Bool) (c : Char) : Bool := isSlash special c || c == '?' || c == '#'

/-! ## Query and fragment -/

/-- The address with the query and the fragment that follow its path. -/
def withTail (u : Url) (text : List Char) : Url :=
  let encoded := if isSpecialScheme u.scheme then Percent.inSpecialQuery else Percent.inQuery
  let queryText := text.takeWhile (· != '#')
  let fragmentText := text.dropWhile (· != '#')
  { u with
    query := match queryText with
      | '?' :: query => some (Percent.encodeText encoded query)
      | _ => none
    fragment := match fragmentText with
      | '#' :: fragment => some (Percent.encodeText Percent.inFragment fragment)
      | _ => none }

/-! ## Paths -/

/-- The segments of a text that does not start with a slash. -/
def rawSegments (special : Bool) (text : List Char) : List (List Char) :=
  (text.map fun c => if isSlash special c then '/' else c).splitOn '/'

/-- The drive at the start of a segment, written with a colon, and what stands behind it in the
segment. A drive fills its segment, unless a tab or a line break divides it from the rest. -/
def driveStart? (raw : List Char) : Option (String × List Char) :=
  match withoutBreaks raw with
  | [letter, mark] =>
    if isDrive [letter, mark] then some (String.ofList [letter, ':'], []) else none
  | letter :: ':' :: rest =>
    if letter.isAlpha && ((raw.dropWhile (· != ':')).drop 1).head?.any isBreak then
      some (String.ofList [letter, ':'], rest)
    else none
  | _ => none

/-- What has been read of a path: its segments, and whether a drive that fills its segment came
first. Such a drive leaves no room for a host. -/
structure Trail where
  segments : List String := []
  onDrive : Bool := false
  deriving DecidableEq, Repr

namespace Trail

/-- The trail with one more segment. At the start of the path of a file, what stands behind a drive
is a segment of its own, whatever it is. -/
def push (file : Bool) (t : Trail) (raw : List Char) : Trail :=
  let segment (text : List Char) : String :=
    Percent.encodeText Percent.inPath (withoutBreaks text)
  match if file && t.segments.isEmpty then driveStart? raw else none with
  | some (drive, []) => { segments := [drive], onDrive := true }
  | some (drive, rest) => { t with segments := [drive, segment rest] }
  | none => { t with segments := t.segments ++ [segment raw] }

/-- Takes the steps among segments: one dot stays, two lead above, and either leaves an empty
segment at the end of the path. -/
def walk (file : Bool) : (t : Trail) → List (List Char) → Trail
  | t, [] => t
  | t, raw :: rest =>
    let segment := Percent.encodeText Percent.inPath (withoutBreaks raw)
    let ended (segments : List String) : Trail :=
      { t with segments := if rest.isEmpty then segments ++ [""] else segments }
    if isAbove segment then walk file (ended (above t.segments)) rest
    else if isHere segment then walk file (ended t.segments) rest
    else walk file (t.push file raw) rest

end Trail

/-- The text of a path at the start of a text, up to a query or a fragment. -/
def pathPart (text : List Char) : List Char := text.takeWhile fun c => c != '?' && c != '#'

/-- The trail that a path leaves behind the segments of `done`. -/
def pathTrail (scheme : String) (done : List String) (text : List Char) : Trail :=
  let special := isSpecialScheme scheme
  match text with
  | [] => { segments := if special then done ++ [""] else done }
  | c :: rest =>
    Trail.walk (scheme == "file") { segments := done }
      (rawSegments special (if isSlash special c then rest else c :: rest))

/-- The address with the path, query and fragment that follow its host. Without a host, a path with
an empty segment before others needs the dot. -/
def withPath (u : Url) (text : List Char) : Url :=
  let path := pathPart text
  let segments := (pathTrail u.scheme [] path).segments
  withTail
    { u with
      dotted := u.host.isNone && segments.head? == some "" && 1 < segments.length
      path := .segments segments }
    (text.drop path.length)

/-! ## Hosts and users -/

/-- The user in a text before an at sign. -/
def withUser (u : Url) (text : List Char) : Url :=
  let encode (part : List Char) : String := Percent.encodeText Percent.inUserInfo part
  { u with
    username := encode (text.takeWhile (· != ':'))
    password := match text.dropWhile (· != ':') with
      | ':' :: c :: rest => some (encode (c :: rest))
      | _ => none }

/-- The host in front of a port, where brackets may hold colons. -/
def splitHost : (bracket : Bool) → List Char → List Char × List Char
  | _, [] => ([], [])
  | bracket, c :: rest =>
    if c = ':' ∧ !bracket then ([], c :: rest)
    else
      let found := splitHost (if c = '[' then true else if c = ']' then false else bracket) rest
      (c :: found.1, found.2)

/-- The port that digits stand for; none without digits. -/
def parsePort (text : List Char) : Except Fault (Option Nat) :=
  if text.isEmpty then .ok none
  else
    match Host.numberIn? 10 text with
    | some n => if n < twoPow 16 then .ok (some n) else .error .invalidPort
    | none => .error .invalidPort

/-- The address with the host and port in a text, and the text behind them: a backslash ends the
port. -/
def withHost (u : Url) (text : List Char) : Except Fault (Url × List Char) := do
  let special := isSpecialScheme u.scheme
  let (hostText, portText) := splitHost false text
  if special && hostText.isEmpty then throw .emptyHost
  let host ← if special then Host.parse hostText else Host.parsePlain hostText
  if hostText.isEmpty && portText.head? == some ':' then throw .emptyHost
  let port ← parsePort ((portText.drop 1).takeWhile (· != '\\'))
  let usual := (specialSchemes.lookup u.scheme).join
  return ({ u with host := some host, port := if port = usual then none else port },
    portText.dropWhile (· != '\\'))

/-- The address with what stands behind two slashes. -/
def withAuthority (u : Url) (text : List Char) : Except Fault Url := do
  let special := isSpecialScheme u.scheme
  let authority := text.takeWhile (!endsAuthority special ·)
  let rest := text.dropWhile (!endsAuthority special ·)
  -- The host stands behind the last at sign.
  let hostText := (authority.reverse.takeWhile (· != '@')).reverse
  let userText := authority.take (authority.length - hostText.length - 1)
  if authority.contains '@' && userText.isEmpty && hostText.isEmpty && !rest.isEmpty then
    throw .emptyHost
  let (u, behind) ← (u.withUser userText).withHost hostText
  if !u.hasHost && (u.username != "" || u.password.isSome) then throw .emptyHost
  return u.withPath (behind ++ rest)

/-! ## Files -/

/-- The segments without the empty ones at the start, unless there are no others. -/
def dropEmptyFirst (segments : List String) : List String :=
  let kept := segments.dropWhile (· == "")
  if kept.isEmpty then [""] else kept

/-- The address of a file with the path, query and fragment of a text, where the path goes on from
`done`. -/
def withFilePath (u : Url) (done : List String) (text : List Char) : Url :=
  let path := pathPart text
  let trail := pathTrail "file" done (path.dropWhile isBreak)
  withTail
    { u with
      host := if trail.onDrive then some (.domain "") else u.host
      path := .segments (dropEmptyFirst trail.segments) }
    (withoutBreaks (text.drop path.length))

/-- The text behind two slashes at the start of a text. -/
def behindSlashes? (text : List Char) : Option (List Char) :=
  let behindSlash? (text : List Char) : Option (List Char) :=
    match text.dropWhile isBreak with
    | c :: rest => if isSlash true c then some rest else none
    | [] => none
  (behindSlash? text).bind behindSlash?

/-- The address of a file; the local host is left out. A drive in place of the host belongs to the
path. -/
def parseFile (text : List Char) : Except Fault Url := do
  let u : Url := { scheme := "file", host := some (.domain ""), path := .segments [] }
  match behindSlashes? text with
  | none => return u.withFilePath [] text
  | some text =>
    let hostText := withoutBreaks (text.takeWhile (!endsAuthority true ·))
    if isDrive hostText then return u.withFilePath [] text
    let host ← if hostText.isEmpty then .ok (.domain "") else Host.parse hostText
    let behind := text.dropWhile (!endsAuthority true ·)
    -- Without a host, an empty segment comes first, so that a drive is not the first one.
    if host = .domain "" ∨ host = .domain "localhost" then return u.withFilePath [""] behind
    return { u with host := some host }.withFilePath [] behind

/-- **Reading an address.** -/
def parse (text : String) : Except Fault Url :=
  let text := trimmed text
  match splitScheme (withoutBreaks text) with
  | none => .error .noScheme
  | some (scheme, rest) =>
    let u : Url := { scheme, path := .segments [] }
    if scheme = "file" then parseFile ((text.dropWhile (· != ':')).drop 1)
    else if isSpecialScheme scheme then u.withAuthority (rest.dropWhile (isSlash true))
    else
      match rest with
      | '/' :: '/' :: rest => u.withAuthority rest
      | '/' :: _ => .ok (u.withPath rest)
      | _ => .ok { u with path := .undivided (String.ofList rest) }

end PenaltySettlement.Url
