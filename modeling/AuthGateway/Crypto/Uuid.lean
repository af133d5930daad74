import AuthGateway.Crypto.Sha1

namespace AuthGateway

namespace Crypto

namespace Uuid

/-!
Identifiers made from names (version 5 of RFC 9562): the same name in the same name space always
gives the same identifier.
-/

open Text (Bytes)

/-- The name space of object identifiers. -/
def objectIdentifiers : Bytes :=
  [0x6B, 0xA7, 0xB8, 0x12, 0x9D, 0xAD, 0x11, 0xD1, 0x80, 0xB4, 0x00, 0xC0, 0x4F, 0xD4, 0x30, 0xC8]

/-- The name space of X.500 distinguished names. -/
def distinguishedNames : Bytes :=
  [0x6B, 0xA7, 0xB8, 0x14, 0x9D, 0xAD, 0x11, 0xD1, 0x80, 0xB4, 0x00, 0xC0, 0x4F, 0xD4, 0x30, 0xC8]

/-- The sixteen bytes of the identifier: a digest marked with version and variant. -/
def bytesOfName (space : Bytes) (name : String) : Bytes :=
  ((Sha1.digest (space ++ Text.encode name)).take 16).mapIdx fun i b =>
    if i = 6 then (b &&& 0x0F) ||| 0x50
    else if i = 8 then (b &&& 0x3F) ||| 0x80
    else b

def ofName (space : Bytes) (name : String) : String :=
  let bytes := bytesOfName space name
  let group (start count : Nat) := Text.hex ((bytes.drop start).take count)
  String.intercalate "-" [group 0 4, group 4 2, group 6 2, group 8 2, group 10 6]

end Uuid

end Crypto

end AuthGateway
