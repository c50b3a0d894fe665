import NativeBridge.Gallery.Sample

/-!
# The module `kitchen`

One of everything: a function for each native type, functions that fail and panic in every way, and
types with every combination of sharing, copying and field access. The module `sample` is part of it.
-/

namespace NativeBridge.Gallery

/-! ## Functions -/

/-- Returns its argument. -/
def echo (t : Ty) : Callable catalog :=
  free [⟨"v", t⟩] t fun (v, ()) => .ok v

def echoes : List (String × Ty) :=
  [("i8", .int .i8), ("i16", .int .i16), ("i32", .int .i32), ("i64", .int .i64),
    ("isize", .int .isize), ("u8", .int .u8), ("u16", .int .u16), ("u32", .int .u32),
    ("u64", .int .u64), ("usize", .int .usize), ("f32", .f32), ("f64", .f64), ("bool", .bool),
    ("str", .str), ("unit", .unit), ("opt_int", .option (.int .i64)),
    ("opt_u8", .option (.int .u8)), ("opt_str", .option .str), ("opt_opt", .option (.option .f32))]

def greet (name : String) (excited : Bool) : String :=
  s!"Hello, {name}" ++ (if excited then "!" else ".")

/-- Quotient rounded towards zero, where the type has it. -/
def checkedDiv (a b : Fixed .i64) : Outcome String (Fixed .i64) :=
  match Fixed.fit? .i64 (a.val.tdiv b.val) with
  | some quotient => if b.val = 0 then refused else .ok quotient
  | none => refused
where
  refused := .error s!"cannot divide {a.val} by {b.val}"

def Point.midpoint (a b : Point) : Point := ⟨(a.x + b.x) / 2, (a.y + b.y) / 2⟩

/-- Sum of the distances from both axes. -/
def Point.span (p : Point) : Binary64 := p.x.abs + p.y.abs

def kitchenFunctions : List (String × Callable catalog) :=
  echoes.map (fun e => ("echo_" ++ e.1, echo e.2)) ++
  [("greet", free [⟨"name", .str⟩, ⟨"excited", .bool⟩] .str fun (name, excited, ()) =>
      .ok (greet name excited)),
    ("maybe_double", free [⟨"value", .option (.int .i64)⟩] (.option (.int .i64)) fun (v, ()) =>
      .ok (v.map fun n => .wrap .i64 (2 * n.val))),
    ("widen_single", free [⟨"value", .f32⟩] .f64 fun (v, ()) => .ok v.convert),
    ("noop", free [] .unit fun () => .ok ()),
    ("explode", free [⟨"message", .str⟩] (.int .i64) fun (text, ()) => .panic (.message text)),
    ("explode_static", free [] .unit fun () => .panic (.message "static boom")),
    ("explode_any", free [] .unit fun () => .panic .other),
    ("as_u64", free [⟨"v", .int .i64⟩] (.int .u64) fun (v, ()) => .ok (.wrap .u64 v.val)),
    ("checked_div", free [⟨"a", .int .i64⟩, ⟨"b", .int .i64⟩] (.int .i64) fun (a, b, ()) =>
      checkedDiv a b),
    ("require", free [⟨"flag", .bool⟩] .unit fun (flag, ()) =>
      if flag then .ok () else .error "flag was false"),
    ("match", free [⟨"type", .int .i64⟩, ⟨"fn", .str⟩] .str fun (n, s, ()) =>
      .ok s!"{n.val}:{s}"),
    ("midpoint",
      free [⟨"a", .object .point⟩, ⟨"b", .object .point⟩] (.object .point) fun (a, b, ()) =>
        .ok (Point.midpoint a b)),
    ("opt_span", free [⟨"p", .option (.object .point)⟩] (.option .f64) fun (p, ()) =>
      .ok (p.map Point.span)),
    ("spawn_ghost", free [] (.object .ghost) fun () => .ok Ghost.mk),
    ("maybe_token", free [⟨"n", .int .i64⟩] (.option (.object .token)) fun (n, ()) =>
      .ok (if n.val < 0 then none else some (Token.mk n))),
    ("static_name", free [] .str fun () => .ok "κitchen"),
    ("mix",
      free [⟨"a", .int .u8⟩, ⟨"b", .int .i16⟩, ⟨"c", .f32⟩, ⟨"d", .bool⟩, ⟨"e", .str⟩,
          ⟨"f", .option (.object .point)⟩] .str
        fun (a, b, c, d, e, f, ()) =>
          .ok s!"{a.val}/{b.val}/{d}/{e}/{c.bits}/{f.isSome}")]

/-! ## Types -/

namespace Temperature

/-- Absolute zero in degrees. -/
def absoluteZero : Binary64 := .ofBits 0xc071126666666666

def fields : List (Property catalog .temperature) :=
  [field .temperature "degrees" .f64 (·.value) (some fun value t => { t with value }),
    field .temperature "label" .str (·.label) none]

def new : Callable catalog :=
  free [⟨"value", .f64⟩, ⟨"label", .str⟩] (.object .temperature) fun (value, label, ()) =>
    if value.isLess absoluteZero then
      .error s!"{Decimal.Layout.plain.render value} is below absolute zero"
    else .ok ⟨value, label, .wrap .u32 0⟩

def fahrenheit (t : Temperature) : Binary64 := t.value * 9 / 5 + 32

def methods : List (String × Callable catalog) :=
  [("fahrenheit", reading .temperature [] .f64 fun t () => .ok t.fahrenheit),
    ("warmer",
      copying .temperature [⟨"delta", .f64⟩] (.object .temperature) fun t (delta, ()) =>
        .ok { t with value := t.value + delta }),
    ("average",
      reading .temperature [⟨"other", .object .temperature⟩] .f64 fun t (other, ()) =>
        .ok ((t.value + Temperature.value other) / 2))]

end Temperature

namespace Counter

def fields : List (Property catalog .counter) :=
  [field .counter "count" (.int .i64) (·.count) none]

def new : Callable catalog :=
  free [⟨"start", .int .i64⟩] (.object .counter) fun (start, ()) => .ok (Counter.mk start)

def methods : List (String × Callable catalog) :=
  [("increment", changing .counter [] (.int .i64) fun c () =>
      let next := Fixed.wrap .i64 (c.count.val + 1)
      (⟨next⟩, .ok next))]

end Counter

namespace Token

def fields : List (Property catalog .token) := [field .token "id" (.int .i64) (·.id) none]

def new : Callable catalog :=
  free [⟨"id", .int .i64⟩] (.object .token) fun (id, ()) => .ok (Token.mk id)

end Token

namespace Tag

def fields : List (Property catalog .tag) :=
  [field .tag "id" (.int .u8) (·.id) (some fun id t => { t with id }),
    field .tag "weight" .f32 (·.weight) (some fun weight t => { t with weight }),
    field .tag "note" (.option .str) (·.note) (some fun note t => { t with note }),
    field .tag "type" .bool (·.type) (some fun type t => { t with type })]

def new : Callable catalog :=
  free [⟨"id", .int .u8⟩, ⟨"weight", .f32⟩, ⟨"note", .option .str⟩] (.object .tag)
    fun (id, weight, note, ()) => .ok ⟨id, weight, note, false, .wrap .i64 0⟩

/-- Adds to the secret. -/
def deepen (t : Tag) (by_ : Int) : Tag := { t with secret := .wrap .i64 (t.secret.val + by_) }

def methods : List (String × Callable catalog) :=
  [("reveal", reading .tag [] (.int .i64) fun t () => .ok t.secret),
    ("bump", changing .tag [⟨"by", .int .i64⟩] (.int .i64) fun t (amount, ()) =>
      let t := t.deepen amount.val
      (t, if 100 < t.secret.val then .error s!"too much: {t.secret.val}" else .ok t.secret)),
    ("twin", reading .tag [] (.object .tag) fun t () =>
      if t.id.val = 0 then .error "zero has no twin" else .ok t),
    ("absorb", changing .tag [⟨"other", .object .tag⟩] (.int .i64) fun t (other, ()) =>
      let t := t.deepen (other.secret.val + other.id.val)
      (t, .ok t.secret)),
    ("match", copying .tag [⟨"id", .int .u8⟩] .bool fun t (id, ()) => .ok (t.id = id)),
    ("taken", copying .tag [] (.object .tag) fun t () =>
      .ok { t with id := .wrap .u8 (t.id.val + 1) }),
    ("wreck", changing .tag [⟨"message", .str⟩] .unit fun t (text, ()) =>
      ({ t with id := .wrap .u8 255 }, .panic (.message text))),
    ("clear", changing .tag [] .unit fun t () => ({ t with note := none }, .ok ()))]

end Tag

namespace Segment

def fields : List (Property catalog .segment) :=
  [field .segment "a" (.object .point) (·.a) (some fun a s => { s with a }),
    field .segment "b" (.object .point) (·.b) (some fun b s => { s with b }),
    field .segment "mid" (.option (.object .point)) (·.mid) (some fun mid s => { s with mid })]

def new : Callable catalog :=
  free [⟨"a", .object .point⟩, ⟨"b", .object .point⟩] (.object .segment) fun (a, b, ()) =>
    .ok (Segment.mk a b none)

def methods : List (String × Callable catalog) :=
  [("flipped", reading .segment [] (.object .segment) fun s () => .ok { s with a := s.b, b := s.a }),
    ("start", copying .segment [] (.object .point) fun s () => .ok s.a),
    ("shift", changing .segment [⟨"by", .object .point⟩] .unit fun s (d, ()) =>
      ({ s with a := s.a.translate d.x d.y, b := s.b.translate d.x d.y }, .ok ()))]

end Segment

namespace Wide

def fields : List (Property catalog .wide) :=
  [field .wide "big" (.int .u64) (·.big) none, field .wide "small" (.int .i8) (·.small) none]

def new : Callable catalog :=
  free [⟨"high", .bool⟩] (.object .wide) fun (high, ()) =>
    .ok ⟨.wrap .u64 (if high then IntType.u64.max else 7), .wrap .i8 (-8)⟩

def methods : List (String × Callable catalog) :=
  [("high_half", reading .wide [] (.int .u64) fun w () =>
      .ok (.wrap .u64 (w.big.val - w.big.val / 2))),
    ("set", changing .wide [⟨"big", .int .u64⟩] (.int .u64) fun w (big, ()) =>
      ({ w with big }, .ok (.wrap .u64 (big.val + 1))))]

end Wide

/-! ## The module -/

/-- The module `kitchen`. -/
def kitchen : Module catalog :=
  Module.merge
    { name := "kitchen"
      functions := kitchenFunctions.map fun f => f.2.toFunction f.1
      classes :=
        [.ofProperties .temperature true Temperature.fields,
          .ofProperties .counter false Counter.fields,
          .ofProperties .token false Token.fields,
          .ofProperties .tag true Tag.fields,
          .ofProperties .segment true Segment.fields,
          .ofProperties .wide false Wide.fields,
          .ofProperties .marker false []]
      tables :=
        [.ofCallables .temperature (some Temperature.new) Temperature.methods,
          .ofCallables .counter (some Counter.new) Counter.methods,
          .ofCallables .token (some Token.new) [],
          .ofCallables .tag (some Tag.new) Tag.methods,
          .ofCallables .segment (some Segment.new) Segment.methods,
          .ofCallables .wide (some Wide.new) Wide.methods] }
    sample

end NativeBridge.Gallery
