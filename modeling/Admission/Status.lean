/-
  Admission.Status — HTTP status codes and their reason phrases.

  A status is a three-digit number; the type holds the bound.  Its text is the number and the phrase
  of the registry, or a fixed remark for a number that the registry does not know.
-/

namespace Admission

/-! ## §1. Codes. -/

/-- A three-digit status code. -/
structure Status where
  code : Nat
  three_digits : 100 ≤ code ∧ code ≤ 999
deriving DecidableEq

namespace Status

/-- The status of a number, if it has three digits. -/
def ofNat? (n : Nat) : Option Status :=
  if h : 100 ≤ n ∧ n ≤ 999 then some ⟨n, h⟩ else none

theorem ofNat?_isSome {n : Nat} : (ofNat? n).isSome ↔ 100 ≤ n ∧ n ≤ 999 := by
  unfold ofNat?; split <;> simp_all

theorem code_of_ofNat? {n : Nat} {s : Status} (h : ofNat? n = some s) : s.code = n := by
  unfold ofNat? at h
  split at h
  · cases h; rfl
  · cases h

def ok : Status := ⟨200, by decide⟩
def notFound : Status := ⟨404, by decide⟩
def methodNotAllowed : Status := ⟨405, by decide⟩
def tooManyRequests : Status := ⟨429, by decide⟩
def internalServerError : Status := ⟨500, by decide⟩
def serviceUnavailable : Status := ⟨503, by decide⟩
def gatewayTimeout : Status := ⟨504, by decide⟩

/-- The status says that the request succeeded. -/
def isSuccess (s : Status) : Bool := 200 ≤ s.code && s.code < 300

/-! ## §2. Phrases. -/

/-- The reason phrases of the registry. -/
def phrases : List (Nat × String) :=
  [(100, "Continue"), (101, "Switching Protocols"), (102, "Processing"), (103, "Early Hints"),
   (200, "OK"), (201, "Created"), (202, "Accepted"), (203, "Non Authoritative Information"),
   (204, "No Content"), (205, "Reset Content"), (206, "Partial Content"), (207, "Multi-Status"),
   (208, "Already Reported"), (226, "IM Used"),
   (300, "Multiple Choices"), (301, "Moved Permanently"), (302, "Found"), (303, "See Other"),
   (304, "Not Modified"), (305, "Use Proxy"), (307, "Temporary Redirect"),
   (308, "Permanent Redirect"),
   (400, "Bad Request"), (401, "Unauthorized"), (402, "Payment Required"), (403, "Forbidden"),
   (404, "Not Found"), (405, "Method Not Allowed"), (406, "Not Acceptable"),
   (407, "Proxy Authentication Required"), (408, "Request Timeout"), (409, "Conflict"),
   (410, "Gone"), (411, "Length Required"), (412, "Precondition Failed"),
   (413, "Payload Too Large"), (414, "URI Too Long"), (415, "Unsupported Media Type"),
   (416, "Range Not Satisfiable"), (417, "Expectation Failed"), (418, "I'm a teapot"),
   (421, "Misdirected Request"), (422, "Unprocessable Entity"), (423, "Locked"),
   (424, "Failed Dependency"), (425, "Too Early"), (426, "Upgrade Required"),
   (428, "Precondition Required"), (429, "Too Many Requests"),
   (431, "Request Header Fields Too Large"), (451, "Unavailable For Legal Reasons"),
   (500, "Internal Server Error"), (501, "Not Implemented"), (502, "Bad Gateway"),
   (503, "Service Unavailable"), (504, "Gateway Timeout"), (505, "HTTP Version Not Supported"),
   (506, "Variant Also Negotiates"), (507, "Insufficient Storage"), (508, "Loop Detected"),
   (510, "Not Extended"), (511, "Network Authentication Required")]

/-- The phrase of a status, if the registry has one. -/
def phrase? (s : Status) : Option String := phrases.lookup s.code

/-- The number and the phrase. -/
def render (s : Status) : String :=
  toString s.code ++ " " ++ s.phrase?.getD "<unknown status code>"

end Status

end Admission
