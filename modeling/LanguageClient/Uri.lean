import LanguageClient.Files.Tree
import LanguageClient.Text.Affix
import LanguageClient.Text.Hexadecimal
import LanguageClient.Text.Utf8

/-!
The URIs that name local files in messages.
-/

namespace LanguageClient.Uri

/-- What every URI of a local file starts with. -/
def scheme : List Char :=
  "file://".toList

/-- A host name that may stand before the path of a local file. -/
def localHost : List Char :=
  "localhost".toList

/-- Whether a byte of a path stands for itself. -/
def isPlain (byte : UInt8) : Bool :=
  (48 ≤ byte && byte ≤ 57) || (65 ≤ byte && byte ≤ 90) || (97 ≤ byte && byte ≤ 122)
    || byte == 45 || byte == 46 || byte == 95 || byte == 126 || byte == 47

def upperHexDigit (value : Nat) : Char :=
  if value < 10 then Char.ofNat (48 + value) else Char.ofNat (55 + value)

/-- A byte of a path, by its value unless it is plain. -/
def encodeByte (byte : UInt8) : List Char :=
  if isPlain byte then
    [Char.ofNat byte.toNat]
  else
    ['%', upperHexDigit (byte.toNat / 16), upperHexDigit (byte.toNat % 16)]

/-- The URI of a path from the root. -/
def ofAbsolutePath (path : String) : String :=
  String.ofList (scheme ++ (Text.Utf8.encode path).flatMap encodeByte)

/-- The URI of a file, by the path from the root to it. -/
def ofPath (tree : FileTree) (path : String) : String :=
  ofAbsolutePath (tree.absolute path)

/-- The byte that two characters after a percent sign give. The first one may be a plus sign. -/
def encodedByte? (first second : Char) : Option UInt8 :=
  (if first == '+' then some 0 else Text.hexDigit? first).bind fun high =>
    (Text.hexDigit? second).map fun low => .ofNat (16 * high + low)

/-- The bytes of a path. A percent sign that gives no byte stands for itself. -/
def decodeBytes : List Char → List UInt8
  | [] => []
  | '%' :: first :: second :: rest =>
    match encodedByte? first second with
    | some byte => byte :: decodeBytes rest
    | none => 37 :: decodeBytes (first :: second :: rest)
  | char :: rest => String.utf8EncodeChar char ++ decodeBytes rest

/-- The path of a local file. Other URIs have none. -/
def toPath? (uri : String) : Option String :=
  (Text.withoutStart? scheme uri.toList).map fun rest =>
    Text.Utf8.decodeLossy (decodeBytes ((Text.withoutStart? localHost rest).getD rest))

end LanguageClient.Uri
