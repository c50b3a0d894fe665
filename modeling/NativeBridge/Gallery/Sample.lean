import NativeBridge.Gallery.Arithmetic
import NativeBridge.Gallery.Exhibit
import NativeBridge.Module
import NativeBridge.Wrapper

/-!
# The module `sample`

Checked integer functions and points in the plane.
-/

namespace NativeBridge.Gallery

/-- Native types over the gallery. -/
abbrev Ty := NativeType catalog

/-- A function without receiver. -/
def free (ps : List (Parameter catalog)) (t : Ty) (f : Arguments ps → Outcome String t.Value) :
    Callable catalog :=
  ⟨ps, t, .free f⟩

/-- A method that reads its receiver. -/
def reading (o : Exhibit) (ps : List (Parameter catalog)) (t : Ty)
    (f : o.Instance → Arguments ps → Outcome String t.Value) : Callable catalog :=
  ⟨ps, t, .reading o f⟩

/-- A method that takes a copy of its receiver. -/
def copying (o : Exhibit) (ps : List (Parameter catalog)) (t : Ty)
    (f : o.Instance → Arguments ps → Outcome String t.Value) : Callable catalog :=
  ⟨ps, t, .copying o f⟩

/-- A method that changes its receiver. -/
def changing (o : Exhibit) (ps : List (Parameter catalog)) (t : Ty)
    (f : o.Instance → Arguments ps → o.Instance × Outcome String t.Value) : Callable catalog :=
  ⟨ps, t, .changing o f⟩

/-- A field, which the host may write if `set` is given. -/
def field (o : Exhibit) (name : String) (t : Ty) (get : o.Instance → t.Value)
    (set : Option (t.Value → o.Instance → o.Instance)) : Property catalog o :=
  ⟨name, t, get, set⟩

/-- Result of checked arithmetic. -/
def ofArithmetic {α : Type} : Except ArithmeticError α → Outcome String α
  | .ok a => .ok a
  | .error e => .error e.message

namespace Point

def distanceFromOrigin (p : Point) : Binary64 := Binary.hypotenuse p.x p.y

def translate (p : Point) (dx dy : Binary64) : Point := ⟨p.x + dx, p.y + dy⟩

def scaled (p : Point) (factor : Binary64) : Point := ⟨p.x * factor, p.y * factor⟩

def fields : List (Property catalog .point) :=
  [field .point "x" .f64 (·.x) (some fun x p => { p with x }),
    field .point "y" .f64 (·.y) (some fun y p => { p with y })]

def new : Callable catalog :=
  free [⟨"x", .f64⟩, ⟨"y", .f64⟩] (.object .point) fun (x, y, ()) => .ok ⟨x, y⟩

def methods : List (String × Callable catalog) :=
  [("distance_from_origin", reading .point [] .f64 fun p () => .ok p.distanceFromOrigin),
    ("translate",
      changing .point [⟨"dx", .f64⟩, ⟨"dy", .f64⟩] .unit fun p (dx, dy, ()) =>
        (p.translate dx dy, .ok ())),
    ("scaled",
      reading .point [⟨"factor", .f64⟩] (.object .point) fun p (factor, ()) =>
        .ok (p.scaled factor))]

end Point

/-- The module `sample`. -/
def sample : Module catalog where
  name := "sample"
  functions :=
    [(free [⟨"a", .int .i64⟩, ⟨"b", .int .i64⟩] (.int .i64)
        fun (a, b, ()) => ofArithmetic (add a b)).toFunction "add",
      (free [⟨"n", .int .i64⟩] (.int .i64)
        fun (n, ()) => ofArithmetic (fibonacci n)).toFunction "fibonacci"]
  classes := [.ofProperties .point true Point.fields]
  tables := [.ofCallables .point (some Point.new) Point.methods]

end NativeBridge.Gallery
