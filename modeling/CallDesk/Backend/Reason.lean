import CallDesk.Json.Reader
import CallDesk.Text.Blank

/-! # What the backend says about a failure

A body that is a JSON object can explain a failure. Of its members `detail`, `message` and `error`
the first that is a text counts. When it is blank, or there is none, the reason of the status is
told instead.
-/

namespace CallDesk.Backend

def reasons : List (Nat × String) := [
  (100, "Continue"), (101, "Switching Protocols"), (102, "Processing"),
  (200, "OK"), (201, "Created"), (202, "Accepted"), (203, "Non Authoritative Information"),
  (204, "No Content"), (205, "Reset Content"), (206, "Partial Content"), (207, "Multi-Status"),
  (208, "Already Reported"), (226, "IM Used"),
  (300, "Multiple Choices"), (301, "Moved Permanently"), (302, "Found"), (303, "See Other"),
  (304, "Not Modified"), (305, "Use Proxy"), (307, "Temporary Redirect"),
  (308, "Permanent Redirect"),
  (400, "Bad Request"), (401, "Unauthorized"), (402, "Payment Required"), (403, "Forbidden"),
  (404, "Not Found"), (405, "Method Not Allowed"), (406, "Not Acceptable"),
  (407, "Proxy Authentication Required"), (408, "Request Timeout"), (409, "Conflict"),
  (410, "Gone"), (411, "Length Required"), (412, "Precondition Failed"),
  (413, "Payload Too Large"), (414, "URI Too Long"), (415, "Unsupported Media Type"),
  (416, "Range Not Satisfiable"), (417, "Expectation Failed"), (418, "I'm a teapot"),
  (421, "Misdirected Request"), (422, "Unprocessable Entity"), (423, "Locked"),
  (424, "Failed Dependency"), (425, "Too Early"), (426, "Upgrade Required"),
  (428, "Precondition Required"), (429, "Too Many Requests"),
  (431, "Request Header Fields Too Large"), (451, "Unavailable For Legal Reasons"),
  (500, "Internal Server Error"), (501, "Not Implemented"), (502, "Bad Gateway"),
  (503, "Service Unavailable"), (504, "Gateway Timeout"), (505, "HTTP Version Not Supported"),
  (506, "Variant Also Negotiates"), (507, "Insufficient Storage"), (508, "Loop Detected"),
  (510, "Not Extended"), (511, "Network Authentication Required")]

def reason (status : Nat) : String := (reasons.lookup status).getD "Request failed"

/-- The text of a body: UTF-8 after an optional mark of it, read forgivingly. Replies that name
another charset, or that start with a mark of UTF-16, are left out. -/
def bodyText (body : Text.Bytes) : Text.Bytes :=
  Text.utf8 (Text.decodeLossy (match body with
    | 0xEF :: 0xBB :: 0xBF :: rest => rest
    | body => body))

/-- The members that can explain a failure, in the order in which they count. -/
def explanations : List String := ["detail", "message", "error"]

def explanation? (body : Text.Bytes) : Option String :=
  match Json.read? (bodyText body) with
  | none => none
  | some v =>
    if v.isSound then
      (explanations.findSome? fun name => (v.member? name).bind Json.text?).filter
        fun s => !Text.isBlankText s
    else none

def failureText (status : Nat) (body : Text.Bytes) : String :=
  (explanation? body).getD (reason status)

end CallDesk.Backend
