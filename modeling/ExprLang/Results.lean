/-!
Lists of results, each a value or an error: the values and the errors in their order, of which there
are as many together as there are results.
-/
set_option autoImplicit false

namespace ExprLang

/-- The values among some results, in their order. -/
def valuesOf {ε α : Type} (results : List (Except ε α)) : List α :=
  results.filterMap fun result =>
    match result with
    | .ok value => some value
    | .error _ => none

/-- The errors among some results, in their order. -/
def errorsOf {ε α : Type} (results : List (Except ε α)) : List ε :=
  results.filterMap fun result =>
    match result with
    | .ok _ => none
    | .error error => some error

theorem valuesOf_append {ε α : Type} (first second : List (Except ε α)) :
    valuesOf (first ++ second) = valuesOf first ++ valuesOf second :=
  List.filterMap_append

theorem errorsOf_append {ε α : Type} (first second : List (Except ε α)) :
    errorsOf (first ++ second) = errorsOf first ++ errorsOf second :=
  List.filterMap_append

section Map

variable {ε ε' α α' : Type} (f : Except ε α → Except ε' α') {onValue : α → α'} {onError : ε → ε'}
  (hvalue : ∀ value, f (.ok value) = .ok (onValue value))
  (herror : ∀ error, f (.error error) = .error (onError error)) (results : List (Except ε α))

include hvalue herror

theorem valuesOf_map : valuesOf (results.map f) = (valuesOf results).map onValue := by
  rw [valuesOf, valuesOf, List.filterMap_map, List.map_filterMap]
  congr 1
  funext result
  cases result with
  | ok value => simp [hvalue]
  | error error => simp [herror]

theorem errorsOf_map : errorsOf (results.map f) = (errorsOf results).map onError := by
  rw [errorsOf, errorsOf, List.filterMap_map, List.map_filterMap]
  congr 1
  funext result
  cases result with
  | ok value => simp [hvalue]
  | error error => simp [herror]

end Map

theorem length_valuesOf_add_length_errorsOf {ε α : Type} (results : List (Except ε α)) :
    (valuesOf results).length + (errorsOf results).length = results.length := by
  induction results with
  | nil => rfl
  | cons result rest ih =>
    cases result with
    | ok value =>
      have hv : valuesOf (Except.ok value :: rest) = value :: valuesOf rest := rfl
      have he : errorsOf (Except.ok value :: rest) = errorsOf rest := rfl
      rw [hv, he]
      simp only [List.length_cons]
      omega
    | error error =>
      have hv : valuesOf (Except.error error :: rest) = valuesOf rest := rfl
      have he : errorsOf (Except.error error :: rest) = error :: errorsOf rest := rfl
      rw [hv, he]
      simp only [List.length_cons]
      omega

end ExprLang
