/-
What nghttp2 tells its callbacks about a frame. The library is not part of the
repository; these are the types of its public interface that the server session
and the client read.
-/
import Http2Server.Common

set_option autoImplicit false

namespace Http2Server

/-- `nghttp2_frame_type`. -/
inductive FrameType
  | DATA
  | HEADERS
  | PRIORITY
  | RST_STREAM
  | SETTINGS
  | PUSH_PROMISE
  | PING
  | GOAWAY
  | WINDOW_UPDATE
  | CONTINUATION
  | EXTENSION
  deriving DecidableEq, Repr

/-- `nghttp2_headers_category`. -/
inductive HeadersCategory
  | REQUEST
  | RESPONSE
  | PUSH_RESPONSE
  | HEADERS
  deriving DecidableEq, Repr

/-- `nghttp2_frame`: the frame header, and `headers.cat` of a HEADERS frame. -/
structure Frame where
  type : FrameType
  flags : UInt8
  stream_id : StreamId
  cat : HeadersCategory := .HEADERS
  deriving DecidableEq, Repr

/-- `flags & NGHTTP2_FLAG_END_STREAM`. -/
def endStream (flags : UInt8) : Bool := flags &&& 0x01 != 0

end Http2Server
