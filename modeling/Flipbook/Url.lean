import Flipbook.Text.Blank
import Flipbook.Text.Hexadecimal
import Flipbook.Url.Host
import Flipbook.Workspace

/-!
Addresses that begin with a scheme. Of these, files can be opened.
-/

namespace Flipbook.Url

def schemes : List String := ["http://", "https://", "file://"]

def hasScheme (text : String) : Bool :=
  let lower := text.toList.map Char.toLower
  schemes.any fun scheme => scheme.toList.isPrefixOf lower

def isUrl : Value → Bool
  | .text text => hasScheme text
  | _ => false

def decodePercent : List Char → List UInt8
  | [] => []
  | '%' :: high :: low :: rest =>
    match Text.hexValue? high, Text.hexValue? low with
    | some first, some second => UInt8.ofNat (first * 16 + second) :: decodePercent rest
    | _, _ => '%'.toUInt8 :: decodePercent (high :: low :: rest)
  | c :: rest => (String.singleton c).toUTF8.toList ++ decodePercent rest

def fileScheme : String := "file://"

def escapeOctet (octet : UInt8) : List Char :=
  let c := Char.ofNat octet.toNat
  if octet < 0x80 && (c.isAlphanum || c ∈ ['_', '.', '-', '~', '/']) then [c]
  else '%' :: (Text.hexadecimal 2 octet.toNat).map Char.toUpper

def escape (path : String) : String := String.ofList (path.toUTF8.toList.flatMap escapeOctet)

def decodeChar? (octets : List UInt8) : Option Char :=
  match (String.fromUTF8? (ByteArray.mk octets.toArray)).map String.toList with
  | some [c] => some c
  | _ => none

def decodeOctets (octets : List UInt8) : List Char :=
  match octets with
  | [] => []
  | octet :: rest =>
    match [0, 1, 2, 3].findSome? fun count =>
      (decodeChar? (octet :: rest.take count)).map (·, count) with
    | some (c, count) => c :: decodeOctets (rest.drop count)
    | none => '\ufffd' :: decodeOctets rest
termination_by octets.length
decreasing_by all_goals simp only [List.length_drop, List.length_cons]; omega

def unescape (text : List Char) : List Char := decodeOctets (decodePercent text)

structure FileAddress where
  host : List Char
  path : List Char

def dropFragment (text : List Char) : List Char :=
  match text.reverse.dropWhile (· != '#') with
  | _ :: before => before.reverse
  | [] => text

def isHostPart (c : Char) : Bool := c != '/' && c != '?' && c != '#'

def fileAddress? (url : String) : Option FileAddress :=
  let text := dropFragment (Text.trim Text.isSpace url.toList)
  if (text.take fileScheme.length).map Char.toLower = fileScheme.toList then
    let rest := text.drop fileScheme.length
    let path := rest.dropWhile isHostPart
    some
      { host := unescape (rest.takeWhile isHostPart)
        path := if path.head?.any (· != '/') then '/' :: path else path }
  else none

def namedHost (url : String) : List Char :=
  let afterScheme := ((Text.trim Text.isSpace url.toList).dropWhile (· != '/')).drop 2
  (afterScheme.takeWhile isHostPart).filter fun c => c != '\t' && c != '\r' && c != '\n'

namespace FileAddress

def localPath (address : FileAddress) : Path :=
  { Path.ofText (String.ofList (unescape address.path)) with slashes := 1 }

/-- What lies at the path. A slash or a dot at its end names no file. -/
def entry (address : FileAddress) (workspace : Workspace) : Workspace.Entry :=
  let text := unescape address.path
  if text.isEmpty then .missing
  else if Workspace.maxPathLength < (String.ofList text).utf8ByteSize then .nameTooLong
  else
    let last := (Text.splitAll '/' text).getLast?
    match workspace.entry address.localPath with
    | .file octets => if last = some [] || last = some ['.'] then .missing else .file octets
    | entry => entry

/-- Whether an address is refused before its path is looked at: two slashes begin the path as it
is written, and another host is named. -/
def isForeign (address : FileAddress) : Bool :=
  match address.path with
  | '/' :: '/' :: rest =>
    rest.head? != some '/' && !address.host.isEmpty && address.host != "localhost".toList
  | _ => false

def checkHost (address : FileAddress) : Except Fault Unit :=
  let (name, port) := Host.splitPort address.host
  if name.isEmpty then .ok ()
  else if !port.isEmpty then .error .unreachableUrl
  else do
    Host.checkLookup name
    if Host.isLocal name then .ok () else .error .unreachableUrl

def fetch (address : FileAddress) (workspace : Workspace) : Except Fault (List UInt8) :=
  if address.isForeign then .error .unreachableUrl
  else if '\x00' ∈ unescape address.path then .error .nulInPath
  else
    match address.entry workspace with
    | .file octets => do
      address.checkHost
      .ok octets
    | .directory => do
      address.checkHost
      .error .unreachableUrl
    | .missing | .nameTooLong => .error .unreachableUrl

end FileAddress

def localPath? (url : String) : Option Path := (fileAddress? url).map (·.localPath)

def fetch (workspace : Workspace) (url : String) : Except Fault (List UInt8) := do
  Host.check (namedHost url)
  match fileAddress? url with
  | some address => address.fetch workspace
  | none => .error .unreachableUrl

end Flipbook.Url
