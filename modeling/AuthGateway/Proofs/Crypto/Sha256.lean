import AuthGateway.Crypto.Sha256

namespace AuthGateway

namespace Crypto

namespace Sha256

/-!
# Digests have one length

A digest has thirty-two bytes whatever it is taken of, and so has a keyed digest.
-/

theorem length_digest (message : Text.Bytes) : (digest message).length = 32 :=
  rfl

theorem length_hmac (key message : Text.Bytes) : (hmac key message).length = 32 :=
  length_digest _

end Sha256

end Crypto

end AuthGateway
