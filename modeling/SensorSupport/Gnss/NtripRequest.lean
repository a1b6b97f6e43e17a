/-
# The NTRIP request (`wtrtk_982dt_driver/gps_ntrip_py/ntrip.py`)

`build_request` puts the configured texts into a GET request. The host, the user agent and the
credentials may have any characters but CR and LF, and what is not ASCII ends in an error; the
mountpoint is percent-encoded, and the credentials are in Base64. So a reader finds the request line
and the header lines that the function writes, and nothing behind them
(`buildRequest_read`): no text can end its line.

A Python `str` may have surrogates that stand alone, which cannot be encoded. A `UnicodeEncodeError`
is a `ValueError`, and so is the error of a port with too many digits.

Key definitions: `PyChar`, `PyStr`, `quote`, `buildRequest`, `ntripRequest`.
Key theorems: `ntripRequest_wellFormed`, `buildRequest_eq_ok`, `buildRequest_read`.
-/
import SensorSupport.Gnss.Parsers
import SensorSupport.Lib.Base64
import SensorSupport.Lib.HttpRequest
import SensorSupport.Lib.PercentEncoding

namespace SensorSupport
namespace Gnss

/-! ### Texts -/

/-- A character of a `str`: one of Unicode, or one half of a surrogate pair. -/
inductive PyChar
  | char (c : Char)
  | surrogate (low : Fin 0x800)
deriving DecidableEq

namespace PyChar

/-- `ord` -/
def ord : PyChar → ℕ
  | char c => c.toNat
  | surrogate low => 0xD800 + low

def scalar : PyChar → Option Char
  | char c => some c
  | surrogate _ => none

def isSpace (py : Python) : PyChar → Bool
  | char c => py.isSpace c
  | surrogate _ => false

/-- The byte that an ASCII character is. -/
def toByte (c : PyChar) : UInt8 := UInt8.ofNat c.ord

def isAscii (c : PyChar) : Bool := c.ord < 0x80

end PyChar

/-- A Python `str`, in full. -/
abbrev PyStr := List PyChar

/-- What `build_request` raises: a `ValueError` of its own, a `UnicodeEncodeError`, or the one of an
`int` with too many digits for a text. -/
inductive RequestError
  | value (message : String)
  | unicodeEncode (codec : String)
  | digits
deriving DecidableEq

namespace PyStr

def ofText (t : Text) : PyStr := t.map PyChar.char

/-- A text of the source. -/
def lit (s : String) : PyStr := ofText s.toList

/-- `bytes.decode('ascii')` -/
def ofBytes (bytes : List UInt8) : PyStr := bytes.map fun b => .char (Char.ofNat b.toNat)

def toBytes (s : PyStr) : List UInt8 := s.map PyChar.toByte

/-- `str.encode('ascii')` -/
def encodeAscii (s : PyStr) : Except RequestError (List UInt8) :=
  if s.all PyChar.isAscii then .ok s.toBytes else .error (.unicodeEncode "ascii")

/-- The UTF-8 bytes of a text. -/
def utf8 (t : Text) : List UInt8 := t.flatMap String.utf8EncodeChar

/-- `str.encode('utf-8')` -/
def encodeUtf8 (s : PyStr) : Except RequestError (List UInt8) :=
  match s.mapM PyChar.scalar with
  | some t => .ok (utf8 t)
  | none => .error (.unicodeEncode "utf-8")

/-- `bytes.decode('utf-8')`, with `none` for an error. -/
def decodeUtf8 (bytes : List UInt8) : Option PyStr :=
  bytes.toByteArray.utf8Decode?.map fun t => ofText t.toList

/-- `str.strip()` -/
def strip (py : Python) (s : PyStr) : PyStr :=
  (s.dropWhile (PyChar.isSpace py)).rdropWhile (PyChar.isSpace py)

/-- `str.lstrip('/')` -/
def lstripSlash (s : PyStr) : PyStr := s.dropWhile (· = .char '/')

end PyStr

open PyStr

/-! ### The request -/

/-- `if p: raise ValueError(message)` -/
def raiseIf (p : Prop) [Decidable p] (message : String) : Except RequestError Unit :=
  if p then .error (.value message) else .ok ()

/-- `_reject_header_injection` -/
def rejectHeaderInjection (value : PyStr) (fieldName : String) : Except RequestError Unit :=
  raiseIf (.char '\r' ∈ value ∨ .char '\n' ∈ value) (fieldName ++ " contains a newline")

/-- The bytes that `quote` leaves as they are. -/
def quoteSafe (b : UInt8) : Bool :=
  (0x41 ≤ b && b ≤ 0x5A) || (0x61 ≤ b && b ≤ 0x7A) || (0x30 ≤ b && b ≤ 0x39) ||
    b = 0x5F || b = 0x2E || b = 0x2D || b = 0x7E || b = 0x2F

/-- `quote(string, safe='/')` -/
def quote (string : PyStr) : Except RequestError PyStr := do
  return ofBytes (PercentEncoding.encode quoteSafe (← encodeUtf8 string))

/-- `str` of an `int`. -/
def strInt (py : Python) (n : ℤ) : Except RequestError PyStr :=
  let digits := Nat.toDigits 10 n.natAbs
  if py.maxStrDigits.any (· < digits.length) then .error .digits
  else .ok (ofText (if n < 0 then '-' :: digits else digits))

/-- The `lines` of `build_request`. -/
def requestLines (host portText path userAgent token ntripVersion : PyStr) : List PyStr :=
  let httpVersion := if ntripVersion = lit "1.0" then lit "1.0" else lit "1.1"
  [lit "GET /" ++ path ++ lit " HTTP/" ++ httpVersion,
    lit "Host: " ++ host ++ lit ":" ++ portText,
    lit "User-Agent: " ++ userAgent,
    lit "Accept: */*",
    lit "Connection: close",
    lit "Authorization: Basic " ++ token] ++
    if ntripVersion = lit "2.0" then [lit "Ntrip-Version: Ntrip/2.0"] else []

/-- What `user_agent` is if it is not given. -/
def defaultUserAgent : PyStr := lit "NTRIP wtrtk_982dt_driver/1.1"

/-- What `ntrip_version` is if it is not given. -/
def defaultNtripVersion : PyStr := lit "1.0"

/-- `build_request` -/
def buildRequest (py : Python) (host : PyStr) (port : ℤ)
    (mountpoint username password userAgent ntripVersion : PyStr) :
    Except RequestError (List UInt8) := do
  rejectHeaderInjection host "host"
  rejectHeaderInjection username "username"
  rejectHeaderInjection password "password"
  rejectHeaderInjection userAgent "user_agent"
  raiseIf (ntripVersion ∉ [lit "1.0", lit "2.0"]) "ntrip_version must be '1.0' or '2.0'"
  let path ← quote (lstripSlash (PyStr.strip py mountpoint))
  raiseIf (path = []) "mountpoint must not be empty"
  let token := ofBytes (Base64.encode (← encodeUtf8 (username ++ lit ":" ++ password)))
  let lines := requestLines host (← strInt py port) path userAgent token ntripVersion
  encodeAscii ((lit "\r\n").intercalate lines ++ lit "\r\n\r\n")

/-- The request as a reader sees it. -/
def ntripRequest (version2 : Bool) (path hostPort userAgent token : List UInt8) : HttpRequest where
  method := toBytes (lit "GET")
  target := 0x2F :: path
  version := toBytes (if version2 then lit "HTTP/1.1" else lit "HTTP/1.0")
  headers := [
    (toBytes (lit "Host"), hostPort),
    (toBytes (lit "User-Agent"), userAgent),
    (toBytes (lit "Accept"), toBytes (lit "*/*")),
    (toBytes (lit "Connection"), toBytes (lit "close")),
    (toBytes (lit "Authorization"), toBytes (lit "Basic ") ++ token)] ++
    if version2 then [(toBytes (lit "Ntrip-Version"), toBytes (lit "Ntrip/2.0"))] else []
  body := []

/-! ### Texts and bytes -/

section Texts

variable {s : PyStr} {t : Text}

@[simp] theorem toBytes_append (a b : PyStr) : toBytes (a ++ b) = toBytes a ++ toBytes b :=
  List.map_append

theorem toBytes_ofBytes (bytes : List UInt8) : toBytes (ofBytes bytes) = bytes := by
  have hbyte : ∀ b : UInt8, (PyChar.char (Char.ofNat b.toNat)).toByte = b := by
    intro b
    have hall : (List.range 256).all (fun n => (Char.ofNat n).toNat = n) = true := by
      decide +kernel
    have hb := of_decide_eq_true (List.all_eq_true.mp hall b.toNat (List.mem_range.mpr b.toNat_lt))
    rw [PyChar.toByte, PyChar.ord, hb, UInt8.ofNat_toNat]
  rw [toBytes, ofBytes, List.map_map]
  exact List.map_id'' hbyte bytes

theorem scalar_ofText : ∀ {s : PyStr} {t : Text}, s.mapM PyChar.scalar = some t → s = ofText t
  | [], t, h => by
    cases h
    rfl
  | .char c :: s, t, h => by
    simp only [List.mapM_cons, PyChar.scalar, Option.bind_eq_bind, Option.bind_some,
      Option.bind_eq_some_iff] at h
    obtain ⟨t', ht', h⟩ := h
    cases h
    rw [scalar_ofText ht']
    rfl
  | .surrogate _ :: s, t, h => by simp [List.mapM_cons, PyChar.scalar] at h

/-- **A text is read back from its UTF-8 bytes.** -/
theorem decodeUtf8_encodeUtf8 {bytes : List UInt8} (h : encodeUtf8 s = .ok bytes) :
    decodeUtf8 bytes = some s := by
  unfold encodeUtf8 at h
  cases ht : s.mapM PyChar.scalar with
  | none => simp [ht] at h
  | some t =>
    simp only [ht, Except.ok.injEq] at h
    have hdecode : (utf8 t).toByteArray.utf8Decode? = some t.toArray :=
      List.utf8Decode?_utf8Encode
    rw [← h, decodeUtf8, hdecode, scalar_ofText ht, Option.map_some]

theorem encodeAscii_eq_ok {bytes : List UInt8} :
    encodeAscii s = .ok bytes ↔ (∀ c ∈ s, c.ord < 0x80) ∧ toBytes s = bytes := by
  unfold encodeAscii
  split
  case isTrue h => simpa [PyChar.isAscii] using fun _ => h
  case isFalse h => simpa [PyChar.isAscii] using fun hall _ => h hall

/-- An ASCII character is the one of its byte. -/
theorem eq_of_toByte {c : PyChar} {d : Char} (hc : c.ord < 0x80) (hd : d.toNat < 0x80)
    (h : c.toByte = UInt8.ofNat d.toNat) : c = .char d := by
  have hord : c.ord = d.toNat := by
    have := congrArg UInt8.toNat h
    rw [PyChar.toByte, UInt8.toNat_ofNat', UInt8.toNat_ofNat'] at this
    omega
  cases c with
  | char c => rw [Char.toNat_inj.mp hord]
  | surrogate low =>
    simp only [PyChar.ord] at hc
    omega

theorem encodeAscii_lt {bytes : List UInt8} (h : encodeAscii s = .ok bytes) :
    ∀ b ∈ bytes, b < 0x80 := by
  obtain ⟨hascii, rfl⟩ := encodeAscii_eq_ok.mp h
  intro b hb
  obtain ⟨c, hc, rfl⟩ := List.mem_map.mp hb
  have hord := hascii c hc
  rw [UInt8.lt_iff_toNat_lt, PyChar.toByte, UInt8.toNat_ofNat', Nat.mod_eq_of_lt (by omega)]
  exact hord

end Texts

/-! ### What is put into the lines -/

/-- A byte that can be put into any line: neither CR nor LF. -/
def inLine (b : UInt8) : Bool := b ≠ 0x0D && b ≠ 0x0A

/-- A text with no CR and no LF can be put into a line. -/
theorem inLine_toBytes {s : PyStr} (hs : ∀ c ∈ s, c.ord < 0x80)
    (h : ¬ (PyChar.char '\r' ∈ s ∨ PyChar.char '\n' ∈ s)) : (toBytes s).all inLine = true := by
  refine List.all_eq_true.mpr fun b hb => ?_
  obtain ⟨c, hc, rfl⟩ := List.mem_map.mp hb
  have hcr : c.toByte ≠ 0x0D := fun hbyte =>
    h (.inl (eq_of_toByte (hs c hc) (d := '\r') (by decide) hbyte ▸ hc))
  have hlf : c.toByte ≠ 0x0A := fun hbyte =>
    h (.inr (eq_of_toByte (hs c hc) (d := '\n') (by decide) hbyte ▸ hc))
  simp [inLine, hcr, hlf]

theorem inLine_all {bytes : List UInt8} (h : bytes.all inLine = true) :
    0x0D ∉ bytes ∧ 0x0A ∉ bytes := by
  have hb := List.all_eq_true.mp h
  exact ⟨fun hcr => absurd (hb _ hcr) (by decide), fun hlf => absurd (hb _ hlf) (by decide)⟩

theorem raiseIf_eq_ok {p : Prop} [Decidable p] {message : String} {u : Unit} :
    raiseIf p message = .ok u ↔ ¬ p := by
  unfold raiseIf
  split <;> simp_all

/-- A quoted text is read back from its path. -/
theorem quote_eq_ok {string path : PyStr} (h : quote string = .ok path) :
    ∃ bytes, toBytes path = PercentEncoding.encode quoteSafe bytes ∧
      decodeUtf8 bytes = some string := by
  obtain ⟨bytes, hbytes, hpath⟩ := bind_eq_ok.mp h
  cases hpath
  exact ⟨bytes, toBytes_ofBytes _, decodeUtf8_encodeUtf8 hbytes⟩

example : quote (lit "MO UNT") = .ok (lit "MO%20UNT") := by decide +kernel

/-- A path has no space and stays in its line. -/
theorem quoted_all (bytes : List UInt8) :
    (PercentEncoding.encode quoteSafe bytes).all (fun b => inLine b && b ≠ 0x20) = true := by
  refine PercentEncoding.encode_all (fun b hb => ?_) (by decide) (by decide +kernel) bytes
  by_contra hne
  have hbad : b = 0x0D ∨ b = 0x0A ∨ b = 0x20 := by
    by_contra hno
    push Not at hno
    simp [inLine, hno] at hne
  rcases hbad with rfl | rfl | rfl <;> exact absurd hb (by decide)

theorem token_all (bytes : List UInt8) : (Base64.encode bytes).all inLine = true :=
  Base64.encode_all (by decide +kernel) (by decide) bytes

theorem strInt_eq_ok {py : Python} {n : ℤ} {text : PyStr} (h : strInt py n = .ok text) :
    ¬ (PyChar.char '\r' ∈ text ∨ PyChar.char '\n' ∈ text) := by
  have hdigits : ∀ c ∈ Nat.toDigits 10 n.natAbs, c ≠ '\r' ∧ c ≠ '\n' := by
    intro c hc
    have hdigit := Nat.isDigit_of_mem_toDigits (by decide) (by decide) hc
    constructor <;>
    · rintro rfl
      exact absurd hdigit (by decide)
  unfold strInt at h
  dsimp only at h
  split at h
  case isTrue => cases h
  case isFalse =>
    cases h
    simp only [ofText, List.mem_map, PyChar.char.injEq, exists_eq_right]
    split <;> grind

/-! ### The whole request -/

theorem toBytes_eol : toBytes (lit "\r\n") = HttpRequest.eol := by decide

/-- Lines joined by CR LF, with a blank line behind them. -/
theorem toBytes_lines : ∀ lines : List PyStr, lines ≠ [] →
    toBytes ((lit "\r\n").intercalate lines ++ lit "\r\n\r\n") =
      (lines.map toBytes).flatMap (· ++ HttpRequest.eol) ++ HttpRequest.eol
  | [line], _ => by
    rw [toBytes_append, List.intercalate_singleton]
    simp [show toBytes (lit "\r\n\r\n") = HttpRequest.eol ++ HttpRequest.eol by decide]
  | line :: next :: lines, _ => by
    have ih := toBytes_lines (next :: lines) (List.cons_ne_nil _ _)
    rw [List.intercalate_cons_cons, List.append_assoc, List.append_assoc, toBytes_append,
      toBytes_append, ih, toBytes_eol]
    simp only [List.map_cons, List.flatMap_cons, List.append_assoc]

theorem subset_intercalate {line sep : PyStr} : ∀ {lines : List PyStr}, line ∈ lines →
    line ⊆ sep.intercalate lines
  | [_], h => by
    rw [List.mem_singleton.mp h, List.intercalate_singleton]
    exact fun _ hc => hc
  | first :: next :: lines, h => by
    rw [List.intercalate_cons_cons]
    rcases List.mem_cons.mp h with rfl | h
    · exact fun c hc => List.mem_append_left _ (List.mem_append_left _ hc)
    · exact fun c hc => List.mem_append_right _ (subset_intercalate h hc)

/-- **What is put into a request stays in its place.** -/
theorem ntripRequest_wellFormed (version2 : Bool) {path hostPort userAgent token : List UInt8}
    (hspace : 0x20 ∉ path) (hpath : path.all inLine = true) (hhost : hostPort.all inLine = true)
    (hagent : userAgent.all inLine = true) (htoken : token.all inLine = true) :
    (ntripRequest version2 path hostPort userAgent token).WellFormed where
  method := by
    change 0x20 ∉ toBytes (lit "GET")
    decide
  target := List.not_mem_cons_of_ne_of_not_mem (by decide) hspace
  version := by
    change 0x20 ∉ toBytes (if version2 then lit "HTTP/1.1" else lit "HTTP/1.0")
    cases version2 <;> decide
  names := by
    have hnames : ((ntripRequest version2 path hostPort userAgent token).headers.map Prod.fst).all
        (fun name => decide (0x3A ∉ name)) = true := by
      cases version2 <;> rfl
    intro header hheader
    exact of_decide_eq_true (List.all_eq_true.mp hnames _ (List.mem_map_of_mem hheader))
  oneLine := by
    have hlines : (ntripRequest version2 path hostPort userAgent token).lines.all
        (fun line => line.all inLine) = true := by
      cases version2 <;>
      · simp only [ntripRequest, HttpRequest.lines, HttpRequest.requestLine,
          HttpRequest.headerLine, List.map_append, List.map_cons, List.all_append, List.all_cons,
          hpath, hhost, hagent, htoken]
        decide
    intro line hline
    exact inLine_all (List.all_eq_true.mp hlines line hline)

/-- The function writes the request that a reader sees. -/
theorem toBytes_requestLines {host portText path userAgent token ntripVersion : PyStr}
    (hversion : ntripVersion = lit "1.0" ∨ ntripVersion = lit "2.0") :
    toBytes ((lit "\r\n").intercalate
        (requestLines host portText path userAgent token ntripVersion) ++ lit "\r\n\r\n") =
      (ntripRequest (ntripVersion = lit "2.0") (toBytes path)
        (toBytes (host ++ lit ":" ++ portText)) (toBytes userAgent) (toBytes token)).write := by
  have hget : toBytes (lit "GET /") = toBytes (lit "GET") ++ [0x20, 0x2F] := by decide
  have hhost : toBytes (lit "Host: ") = toBytes (lit "Host") ++ [0x3A, 0x20] := by decide
  have hagent : toBytes (lit "User-Agent: ") = toBytes (lit "User-Agent") ++ [0x3A, 0x20] := by
    decide
  have hauth : toBytes (lit "Authorization: Basic ") =
      toBytes (lit "Authorization") ++ [0x3A, 0x20] ++ toBytes (lit "Basic ") := by decide
  have hlines : (requestLines host portText path userAgent token ntripVersion).map toBytes =
      (ntripRequest (ntripVersion = lit "2.0") (toBytes path)
        (toBytes (host ++ lit ":" ++ portText)) (toBytes userAgent) (toBytes token)).lines := by
    rcases hversion with rfl | rfl
    · have hne : (lit "1.0" : PyStr) ≠ lit "2.0" := by decide
      have hhttp : toBytes (lit " HTTP/") ++ toBytes (lit "1.0") =
          [0x20] ++ toBytes (lit "HTTP/1.0") := by decide
      simp [requestLines, ntripRequest, HttpRequest.lines, HttpRequest.requestLine,
        HttpRequest.headerLine, hne, hhttp, hget, hhost, hagent, hauth]
      decide
    · have hne : (lit "2.0" : PyStr) ≠ lit "1.0" := by decide
      have hhttp : toBytes (lit " HTTP/") ++ toBytes (lit "1.1") =
          [0x20] ++ toBytes (lit "HTTP/1.1") := by decide
      simp [requestLines, ntripRequest, HttpRequest.lines, HttpRequest.requestLine,
        HttpRequest.headerLine, hne, hhttp, hget, hhost, hagent, hauth]
      decide
  rw [toBytes_lines _ (by simp [requestLines]), hlines, HttpRequest.write]
  exact (List.append_nil _).symm

/-- What an accepted request is made of. -/
theorem buildRequest_eq_ok {py : Python} {host : PyStr} {port : ℤ}
    {mountpoint username password userAgent ntripVersion : PyStr} {bytes : List UInt8}
    (h : buildRequest py host port mountpoint username password userAgent ntripVersion =
      .ok bytes) :
    ∃ path credentials portText,
      ¬ (PyChar.char '\r' ∈ host ∨ PyChar.char '\n' ∈ host) ∧
      ¬ (PyChar.char '\r' ∈ userAgent ∨ PyChar.char '\n' ∈ userAgent) ∧
      (ntripVersion = lit "1.0" ∨ ntripVersion = lit "2.0") ∧
      quote (lstripSlash (PyStr.strip py mountpoint)) = .ok path ∧
      encodeUtf8 (username ++ lit ":" ++ password) = .ok credentials ∧
      strInt py port = .ok portText ∧
      encodeAscii ((lit "\r\n").intercalate (requestLines host portText path userAgent
        (ofBytes (Base64.encode credentials)) ntripVersion) ++ lit "\r\n\r\n") = .ok bytes := by
  unfold buildRequest at h
  simp only [rejectHeaderInjection, bind_eq_ok, raiseIf_eq_ok, Decidable.not_not, List.mem_cons,
    List.not_mem_nil, or_false] at h
  obtain ⟨-, hhost, -, -, -, -, -, hagent, -, hversion, path, hpath, -, -, credentials, hcredentials,
    portText, hport, h⟩ := h
  exact ⟨path, credentials, portText, hhost, hagent, hversion, hpath, hcredentials, hport, h⟩

/-- **A request says what it is made of, and nothing else**: a reader finds the lines that the
function writes, each in its place, and nothing behind them. -/
theorem buildRequest_read (py : Python) (host : PyStr) (port : ℤ)
    (mountpoint username password userAgent ntripVersion : PyStr) :
    (∃ error, buildRequest py host port mountpoint username password userAgent ntripVersion =
      .error error) ∨
    ∃ bytes path token : List UInt8, ∃ portText : PyStr, ∃ request : HttpRequest,
      buildRequest py host port mountpoint username password userAgent ntripVersion = .ok bytes ∧
      (∀ b ∈ bytes, b < 0x80) ∧ strInt py port = .ok portText ∧
      request = ntripRequest (ntripVersion = lit "2.0") path
        (toBytes (host ++ lit ":" ++ portText)) (toBytes userAgent) token ∧
      bytes = request.write ∧ request.WellFormed ∧ HttpRequest.parse bytes = some request ∧
      0x20 ∉ path ∧
      decodeUtf8 (PercentEncoding.decode path) =
        some (lstripSlash (PyStr.strip py mountpoint)) ∧
      (Base64.decode token).bind decodeUtf8 = some (username ++ lit ":" ++ password) := by
  cases h : buildRequest py host port mountpoint username password userAgent ntripVersion with
  | error error => exact .inl ⟨error, rfl⟩
  | ok bytes =>
    right
    obtain ⟨path, credentials, portText, hhost, hagent, hversion, hpath, hcredentials, hport,
      hbytes⟩ := buildRequest_eq_ok h
    have hlt := encodeAscii_lt hbytes
    obtain ⟨hascii, hbytes⟩ := encodeAscii_eq_ok.mp hbytes
    obtain ⟨raw, hraw, hstripped⟩ := quote_eq_ok hpath
    have hquoted := quoted_all raw
    rw [← hraw] at hquoted
    have hspace : 0x20 ∉ toBytes path := fun hmem =>
      absurd (List.all_eq_true.mp hquoted _ hmem) (by decide)
    have hpathLine : (toBytes path).all inLine = true :=
      List.all_eq_true.mpr fun b hb => ((Bool.and_eq_true _ _).mp (List.all_eq_true.mp hquoted b hb)).1
    have hinside : ∀ line ∈ requestLines host portText path userAgent
        (ofBytes (Base64.encode credentials)) ntripVersion, ∀ c ∈ line, c.ord < 0x80 :=
      fun line hline c hc => hascii c (List.mem_append_left _ (subset_intercalate hline hc))
    have hhostAscii := hinside (lit "Host: " ++ host ++ lit ":" ++ portText)
      (by simp [requestLines])
    have hagentAscii := hinside (lit "User-Agent: " ++ userAgent) (by simp [requestLines])
    simp only [List.mem_append] at hhostAscii hagentAscii
    have hhostLine : (toBytes (host ++ lit ":" ++ portText)).all inLine = true := by
      rw [toBytes_append, toBytes_append, List.all_append, List.all_append,
        inLine_toBytes (fun c hc => hhostAscii c (.inl (.inl (.inr hc)))) hhost,
        inLine_toBytes (fun c hc => hhostAscii c (.inr hc)) (strInt_eq_ok hport)]
      decide
    have hagentLine : (toBytes userAgent).all inLine = true :=
      inLine_toBytes (fun c hc => hagentAscii c (.inr hc)) hagent
    rw [toBytes_requestLines hversion, toBytes_ofBytes] at hbytes
    have hform := ntripRequest_wellFormed (ntripVersion = lit "2.0") hspace hpathLine
      hhostLine hagentLine (token_all credentials)
    have hdecode : PercentEncoding.decode (toBytes path) = raw := by
      rw [hraw, PercentEncoding.decode_encode (by decide)]
    refine ⟨bytes, toBytes path, Base64.encode credentials, portText, _, rfl, hlt, hport, rfl,
      hbytes.symm, hform, ?_, hspace, ?_, ?_⟩
    · rw [← hbytes, HttpRequest.parse_write hform]
    · rw [hdecode, hstripped]
    · rw [Base64.decode_encode, Option.bind_some, decodeUtf8_encodeUtf8 hcredentials]

example : (buildRequest .ascii (lit "caster.example") 2101 (lit "MOUNT") (lit "alice")
    (lit "secret") defaultUserAgent defaultNtripVersion).isOk = true := by decide +kernel

end Gnss
end SensorSupport
