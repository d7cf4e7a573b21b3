import PhoneVerification.Text.Ascii
import PhoneVerification.Text.Utf8
import PhoneVerification.Url.Basic
import PhoneVerification.Wire

/-!
# Requests and answers

A request is composed as a `Draft`, whose address may still turn out to be unusable. An `Answer`
of the network is a response, or nothing at all.
-/

namespace PhoneVerification.Http

inductive Method
  | get
  | post
  deriving DecidableEq, Repr

/-- The method as it is sent. -/
def Method.name : Method → String
  | get => "GET"
  | post => "POST"

/-- How this program introduces itself. -/
def userAgent : String := "phonekit-core/0.3.0"

/-- A request as it is composed. -/
structure Draft where
  method : Method
  address : String
  contentType : Option String
  body : String
  deriving DecidableEq, Repr

/-- A request as it is handed to the network. -/
structure Request where
  method : Method
  url : Url
  userAgent : String
  contentType : Option String
  body : String
  deriving DecidableEq, Repr

/-- A response with its headers in order of arrival. The body is missing if it broke off. -/
structure Response where
  status : Nat
  headers : List (String × String)
  body : Option (List UInt8)
  deriving DecidableEq, Repr

/-- What the network makes of a request. -/
inductive Answer
  | unreachable
  | response (r : Response)
  deriving DecidableEq, Repr

/-- The standard phrases of the status codes. -/
def phrases : List (Nat × String) :=
  [(100, "Continue"), (101, "Switching Protocols"), (102, "Processing"), (103, "Early Hints"),
    (200, "OK"), (201, "Created"), (202, "Accepted"), (203, "Non Authoritative Information"),
    (204, "No Content"), (205, "Reset Content"), (206, "Partial Content"), (207, "Multi-Status"),
    (208, "Already Reported"), (226, "IM Used"), (300, "Multiple Choices"),
    (301, "Moved Permanently"), (302, "Found"), (303, "See Other"), (304, "Not Modified"),
    (305, "Use Proxy"), (307, "Temporary Redirect"), (308, "Permanent Redirect"),
    (400, "Bad Request"), (401, "Unauthorized"), (402, "Payment Required"), (403, "Forbidden"),
    (404, "Not Found"), (405, "Method Not Allowed"), (406, "Not Acceptable"),
    (407, "Proxy Authentication Required"), (408, "Request Timeout"), (409, "Conflict"),
    (410, "Gone"), (411, "Length Required"), (412, "Precondition Failed"),
    (413, "Payload Too Large"), (414, "URI Too Long"), (415, "Unsupported Media Type"),
    (416, "Range Not Satisfiable"), (417, "Expectation Failed"), (418, "I'm a teapot"),
    (421, "Misdirected Request"), (422, "Unprocessable Entity"), (423, "Locked"),
    (424, "Failed Dependency"), (425, "Too Early"), (426, "Upgrade Required"),
    (428, "Precondition Required"), (429, "Too Many Requests"),
    (431, "Request Header Fields Too Large"), (451, "Unavailable For Legal Reasons"),
    (500, "Internal Server Error"), (501, "Not Implemented"), (502, "Bad Gateway"),
    (503, "Service Unavailable"), (504, "Gateway Timeout"), (505, "HTTP Version Not Supported"),
    (506, "Variant Also Negotiates"), (507, "Insufficient Storage"), (508, "Loop Detected"),
    (510, "Not Extended"), (511, "Network Authentication Required")]

namespace Response

/-- Whether the request was carried out. -/
def isSuccess (r : Response) : Bool :=
  200 ≤ r.status && r.status < 300

/-- The status code with its standard phrase. -/
def statusLine (r : Response) : String :=
  toString r.status ++ " " ++ (phrases.lookup r.status).getD "<unknown status code>"

/-- The characters of a header value that can be read as text. -/
def isHeaderChar (c : Char) : Bool :=
  c == '\t' || (0x20 ≤ c.toNat && c.toNat < 0x7F)

/-- The first value of a header, if it can be read as text. -/
def header? (r : Response) (name : String) : Option String :=
  ((r.headers.find? fun h => Text.sameAscii h.1 name).map Prod.snd).filter fun value =>
    value.toList.all isHeaderChar

/-- The body as text, if it arrived. -/
def text? (r : Response) : Option String :=
  r.body.map Text.Utf8.decodeLossy

/-- The value that the body holds as JSON, if it arrived. -/
def json? {α : Type} [OfWire α] (r : Response) : Option α :=
  r.body.bind Wire.decodeBytes?

end Response

end PhoneVerification.Http
