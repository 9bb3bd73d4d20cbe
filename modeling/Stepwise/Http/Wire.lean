import Stepwise.Http.Exchange
import Stepwise.Text.Base64

/-! # Requests and responses as bytes -/

namespace Stepwise

namespace Http

/-! ## Requests -/

/-- The header for the name and password of an address. -/
def authorization (u : Url) : List (String × String) :=
  match u.credentials with
  | some (name, password) =>
    let bytes := Url.decodeBytes name.toList ++ ":".toUTF8.toList
      ++ Url.decodeBytes password.toList
    [("authorization", "Basic " ++ String.ofList (Base64.encode bytes))]
  | none => []

/-- All headers of a request, in the order in which they are sent. -/
def allHeaders (o : Outgoing) : List (String × String) :=
  authorization o.url ++ o.headers ++ [("accept", "*/*"), ("host", o.url.authority)]
    ++ (match o.body with
      | some body => [("content-length", toString body.utf8ByteSize)]
      | none => [])
    ++ [("connection", "close")]

def headerLine (header : String × String) : String := header.1 ++ ": " ++ header.2 ++ "\r\n"

def requestText (o : Outgoing) : String :=
  o.method.name ++ " " ++ o.url.target ++ " HTTP/1.1\r\n"
    ++ String.join ((allHeaders o).map headerLine) ++ "\r\n" ++ o.body.getD ""

/-! ## Responses -/

/-- The bytes before and after the first empty line. -/
def splitHead : List UInt8 → Option (List UInt8 × List UInt8)
  | 13 :: 10 :: 13 :: 10 :: rest => some ([], rest)
  | b :: rest => (splitHead rest).map fun (head, body) => (b :: head, body)
  | [] => none

/-- Bytes as text. What is no text is marked by a replacement character for each byte. -/
def textOf (bytes : List UInt8) : String :=
  match String.fromUTF8? (ByteArray.mk bytes.toArray) with
  | some s => s
  | none => String.ofList (bytes.map fun b =>
      if b.toNat < 128 then Char.ofNat b.toNat else Char.ofNat 0xFFFD)

/-- The code in the first line of a response. -/
def statusOf? (line : String) : Option Nat :=
  match line.splitOn " " with
  | version :: code :: _ =>
    if "HTTP/1.".toList.isPrefixOf version.toList then code.toNat? else none
  | _ => none

def headerOf? (line : String) : Option (String × String) :=
  match line.toList.dropWhile (· != ':') with
  | _ :: value =>
    some (String.ofList ((line.toList.takeWhile (· != ':')).map Char.toLower),
      String.ofList (value.dropWhile (· == ' ')))
  | [] => none

/-- The bytes of a body in chunks. `left` bounds the number of chunks. -/
def joinChunks : (left : Nat) → List UInt8 → List UInt8
  | 0, _ => []
  | left + 1, bytes =>
    let digits := (bytes.takeWhile (· != 10)).map fun b => Char.ofNat b.toNat
    let size := (digits.takeWhile fun c => (Url.hexValue? c).isSome).foldl
      (fun n c => 16 * n + (Url.hexValue? c).getD 0) 0
    let body := (bytes.dropWhile (· != 10)).drop 1
    if size = 0 then [] else body.take size ++ joinChunks left (body.drop (size + 2))

/-- The body that belongs to these headers. -/
def bodyBytes (headers : List (String × String)) (bytes : List UInt8) : List UInt8 :=
  if ((headers.lookup "transfer-encoding").map (·.map Char.toLower)) = some "chunked" then
    joinChunks (bytes.length + 1) bytes
  else
    match (headers.lookup "content-length").bind String.toNat? with
    | some n => bytes.take n
    | none => bytes

/-- The response in some bytes. -/
def delivery? (bytes : List UInt8) : Option Delivery := do
  let (head, body) ← splitHead bytes
  match (textOf head).splitOn "\r\n" with
  | first :: lines =>
    let status ← statusOf? first
    let headers := lines.filterMap headerOf?
    return ⟨status, if Status.isBodiless status then "" else textOf (bodyBytes headers body)⟩
  | [] => none

end Http

end Stepwise
