import Countinghouse.Json.Record

/-! # Pages

A list is shown in pages of one to a hundred rows, counted from one.  A request
for page zero asks for the first page, and there is always at least one page. -/

set_option autoImplicit false

namespace Countinghouse

structure PageRequest where
  page : Nat
  perPage : Nat
  deriving DecidableEq, Repr

namespace PageRequest

def first : PageRequest := ⟨1, 20⟩

def limit (r : PageRequest) : Nat := max 1 (min r.perPage 100)

def number (r : PageRequest) : Nat := max r.page 1

def offset (r : PageRequest) : Nat := (r.number - 1) * r.limit

def slice {α : Type} (r : PageRequest) (rows : List α) : List α := (rows.drop r.offset).take r.limit

def totalPages (r : PageRequest) (total : Nat) : Nat :=
  if total = 0 then 1 else (total + r.limit - 1) / r.limit

def record : Json.Record PageRequest :=
  PageRequest.mk <$> Json.Record.orElse "page" (Json.asNat (2 ^ 32)) 1
    <*> Json.Record.orElse "per_page" (Json.asNat (2 ^ 32)) 20

def toJson (r : PageRequest) : Json :=
  .obj [("page", .ofNat r.page), ("per_page", .ofNat r.perPage)]

def response (r : PageRequest) (rows : List Json) (total : Nat) : Json :=
  .obj [("data", .arr rows),
    ("meta", .obj [("page", .ofNat r.number), ("per_page", .ofNat r.limit),
      ("total", .ofNat total), ("total_pages", .ofNat (r.totalPages total))])]

end PageRequest

end Countinghouse
