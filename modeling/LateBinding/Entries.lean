/-! # Insertion-ordered entries

Keys with values in the order of first insertion. A key is looked for by a test, so that the same
code serves keys compared by identity and keys compared by content. -/

namespace LateBinding.Entries

universe u v
variable {κ : Type u} {ν : Type v}

/-- The value of the first key that passes the test. -/
def get? (hit : κ → Bool) : List (κ × ν) → Option ν
  | [] => none
  | (k, v) :: r => if hit k then some v else get? hit r

def has (hit : κ → Bool) (es : List (κ × ν)) : Bool := (get? hit es).isSome

/-- Replaces the value of the first key that passes the test, or adds `k` with the value at the
end. -/
def put (hit : κ → Bool) (k : κ) (v : ν) : List (κ × ν) → List (κ × ν)
  | [] => [(k, v)]
  | (k', v') :: r => if hit k' then (k', v) :: r else (k', v') :: put hit k v r

/-- As `get?`, with a test that may never end. -/
def find? (same : κ → Option Bool) : List (κ × ν) → Option (Option ν)
  | [] => some none
  | (k, v) :: r =>
    match same k with
    | some true => some (some v)
    | some false => find? same r
    | none => none

/-- As `put`, with a test that may never end. -/
def insert? (same : κ → Option Bool) (k : κ) (v : ν) : List (κ × ν) → Option (List (κ × ν))
  | [] => some [(k, v)]
  | (k', v') :: r =>
    match same k' with
    | some true => some ((k', v) :: r)
    | some false => (insert? same k v r).map ((k', v') :: ·)
    | none => none

variable {hit other : κ → Bool} {k : κ} {v : ν} {es : List (κ × ν)}

theorem has_eq_any : has hit es = es.any fun e => hit e.1 := by
  unfold has
  induction es with
  | nil => rfl
  | cons e es ih => cases h : hit e.1 <;> simp [get?, h, ih]

/-- A key that passes its own test is found with the value it was put under. -/
theorem get?_put (h : hit k = true) : get? hit (put hit k v es) = some v := by
  induction es with
  | nil => simp [put, get?, h]
  | cons e es ih => cases he : hit e.1 <;> simp [put, get?, he, ih]

/-- Putting is not seen by a test that the key and all it replaces fail. -/
theorem get?_put_of_apart (hk : other k = false) (h : ∀ k', hit k' = true → other k' = false) :
    get? other (put hit k v es) = get? other es := by
  induction es with
  | nil => simp [put, get?, hk]
  | cons e es ih => cases he : hit e.1 <;> simp [put, get?, he, ih, h]

/-- Keys keep their places, and a new one comes last. -/
theorem map_fst_put :
    (put hit k v es).map Prod.fst =
      if has hit es then es.map Prod.fst else es.map Prod.fst ++ [k] := by
  induction es with
  | nil => rfl
  | cons e es ih =>
    rw [has_eq_any] at ih ⊢
    cases he : hit e.1
    · simp only [put, he, Bool.false_eq_true, ↓reduceIte, List.map_cons, ih, List.any_cons,
        Bool.false_or]
      split <;> rfl
    · simp [put, he]

end LateBinding.Entries
