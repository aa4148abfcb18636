import BofWebRpc.WebApp.ContentRange

/-!
# Requests and responses

What the transfers read and write of a `cpp-httplib` request and response. A
header that is missing reads as the empty string.
-/

namespace BofWebRpc.WebApp

/-- `BOF_WEB_STATUS`, the statuses the program names. -/
inductive Status where
  | ok200
  | partialContent206
  | badRequest400
  | unauthorized401
  | notAcceptable406
  | internalServerError500
  | insufficientStorage507
  deriving DecidableEq

/-- The number sent for a status. -/
def Status.code : Status → ℕ
  | .ok200 => 200
  | .partialContent206 => 206
  | .badRequest400 => 400
  | .unauthorized401 => 401
  | .notAcceptable406 => 406
  | .internalServerError500 => 500
  | .insufficientStorage507 => 507

/-- A request to a handler: the headers it reads, the path parameters `:dir` and
`:file`, and the body. -/
structure Request where
  /-- The `Session-Id` header. -/
  sessionId : List Char
  /-- The `Content-Range` header. -/
  contentRange : List Char
  /-- `path_params.at("dir")`, which throws when the parameter is missing. -/
  dir : Option (List Char)
  /-- `path_params.at("file")`. -/
  file : Option (List Char)
  /-- The body. -/
  body : List UInt8
  deriving DecidableEq

/-- A response, as far as the client reads it. -/
structure Response where
  /-- The status, any number. -/
  status : ℕ
  /-- The `Content-Range` header. -/
  contentRange : List Char
  /-- The body. -/
  body : List UInt8
  deriving DecidableEq

/-- What the world gives one iteration of a transfer: the result of the request,
absent when no response came back, and whether the iteration's file operation
succeeds when it is possible at all. -/
structure Exchange where
  /-- `Res`. -/
  res : Option Response
  /-- The file operation succeeds. -/
  io : Bool
  deriving DecidableEq

/-- `ftell` at the end of a file of `n` bytes, as the `size_t` it is assigned to: a
`long` cannot tell a position from `2^63` on, and `-1` says so. -/
def ftell (n : ℕ) : ℕ := if n < 2 ^ 63 then n else sizeMax - 1

theorem ftell_lt (n : ℕ) : ftell n < sizeMax := by
  unfold ftell sizeMax
  split <;> omega

end BofWebRpc.WebApp
