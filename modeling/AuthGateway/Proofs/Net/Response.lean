import AuthGateway.Gateway.Page
import AuthGateway.Proofs.Net.HeaderMap

namespace AuthGateway

/-!
# Responses without a cookie

Whatever is added to a response, its status stays.  A field that is set leaves the fields of other names
alone.  So no response that the gateway makes
for a fault or to send the client elsewhere sets a cookie, unless one is added to it.
-/

namespace Net

namespace Response

/-- The client is given no cookie. -/
def SetsNoCookie (r : Response) : Prop :=
  r.headers.getAll .setCookie = []

variable {r : Response}

theorem setsNoCookie_typed (status : Nat) (contentType : String) (body : ByteArray) :
    (typed status contentType body).SetsNoCookie :=
  HeaderMap.getAll_insert_of_ne .empty (by decide) (HeaderValue.ofVisible contentType)

theorem setsNoCookie_seeOther (location : String) : (seeOther location).SetsNoCookie :=
  HeaderMap.getAll_insert_of_ne .empty (by decide) (HeaderValue.ofVisible location)

@[simp] theorem status_sized : r.sized.status = r.status := by
  rw [sized]
  split
  · rfl
  · rfl

@[simp] theorem status_allowing (methods : String) : (r.allowing methods).status = r.status := by
  rw [allowing]
  split
  · rfl
  · rfl

@[simp] theorem status_withoutBody : r.withoutBody.status = r.status :=
  rfl

/-- The length of the body is said in one field only. -/
theorem getAll_sized {name : HeaderName} (different : name ≠ .contentLength) :
    r.sized.headers.getAll name = r.headers.getAll name := by
  rw [sized]
  split
  · rfl
  · exact HeaderMap.getAll_insert_of_ne r.headers different (lengthValue r.body)

theorem SetsNoCookie.sized (free : r.SetsNoCookie) : r.sized.SetsNoCookie :=
  (getAll_sized (by decide)).trans free

end Response

end Net

@[simp] theorem GatewayError.status_response (e : GatewayError) : e.response.status = e.status := by
  cases e with
  | _ => rfl

theorem GatewayError.setsNoCookie_response (e : GatewayError) : e.response.SetsNoCookie := by
  cases e with
  | _ => exact Net.Response.setsNoCookie_typed _ _ _

end AuthGateway
