import Goodput.Http.ApiError
/-!
# Response heads

A response head is a status and header fields. The content behind it is kept apart, because much of it
is produced only while it is read.
-/

namespace Goodput.Http

/-- A status and header fields, by lowercase names. -/
structure Head where
  status : Nat
  fields : List (String × String)
deriving Repr, DecidableEq, Inhabited

namespace Head

def field? (name : String) (h : Head) : Option String := (h.fields.find? (·.1 == name)).map (·.2)

def extend (fields : List (String × String)) (h : Head) : Head := { h with fields := h.fields ++ fields }

/-- A head with nothing behind it. -/
def empty (status : Nat) : Head := ⟨status, [("content-length", "0")]⟩

/-- The head that answers a refused request. -/
def ofError (e : ApiError) : Head :=
  (empty e.status).extend (Option.toList (e.contentRange?.map fun value => ("content-range", value)))

end Head

/-- The reason that goes with a status in a status line; none for a status that has no registered
reason. -/
def reason? (status : Nat) : Option String :=
  (table.find? (·.1 == status)).map (·.2)
where
  /-- The registered reasons. -/
  table : List (Nat × String) := [
    (100, "Continue"), (101, "Switching Protocols"), (102, "Processing"), (103, "Early Hints"),
    (200, "OK"), (201, "Created"), (202, "Accepted"), (203, "Non Authoritative Information"),
    (204, "No Content"), (205, "Reset Content"), (206, "Partial Content"), (207, "Multi-Status"),
    (208, "Already Reported"), (226, "IM Used"),
    (300, "Multiple Choices"), (301, "Moved Permanently"), (302, "Found"), (303, "See Other"),
    (304, "Not Modified"), (305, "Use Proxy"), (307, "Temporary Redirect"), (308, "Permanent Redirect"),
    (400, "Bad Request"), (401, "Unauthorized"), (402, "Payment Required"), (403, "Forbidden"),
    (404, "Not Found"), (405, "Method Not Allowed"), (406, "Not Acceptable"),
    (407, "Proxy Authentication Required"), (408, "Request Timeout"), (409, "Conflict"), (410, "Gone"),
    (411, "Length Required"), (412, "Precondition Failed"), (413, "Payload Too Large"),
    (414, "URI Too Long"), (415, "Unsupported Media Type"), (416, "Range Not Satisfiable"),
    (417, "Expectation Failed"), (418, "I'm a teapot"), (421, "Misdirected Request"),
    (422, "Unprocessable Entity"), (423, "Locked"), (424, "Failed Dependency"), (425, "Too Early"),
    (426, "Upgrade Required"), (428, "Precondition Required"), (429, "Too Many Requests"),
    (431, "Request Header Fields Too Large"), (451, "Unavailable For Legal Reasons"),
    (500, "Internal Server Error"), (501, "Not Implemented"), (502, "Bad Gateway"),
    (503, "Service Unavailable"), (504, "Gateway Timeout"), (505, "HTTP Version Not Supported"),
    (506, "Variant Also Negotiates"), (507, "Insufficient Storage"), (508, "Loop Detected"),
    (510, "Not Extended"), (511, "Network Authentication Required")]

/-- A status as messages show it: the number and its reason. -/
def statusText (status : Nat) : String :=
  s!"{status} " ++ (reason? status).getD "<unknown status code>"

end Goodput.Http
