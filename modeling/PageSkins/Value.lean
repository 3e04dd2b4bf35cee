import PageSkins.Calendar

/-!
# Values without a fixed shape

What a template looks names up in, and what a data file holds.
-/

namespace PageSkins

/-- A value of any kind. The entries of a `map` are in the order in which its keys first arrived, with no
key twice. `keyed` is a map some of whose keys are not text; it, `date` and `moment` come from data files
only. -/
inductive Value where
  | null
  | bool (b : Bool)
  | int (n : Int)
  | float (x : Float)
  | text (s : String)
  | list (items : List Value)
  | map (entries : List (String × Value))
  | date (d : Date)
  | moment (t : Moment)
  | keyed (entries : List (Value × Value))
deriving Inhabited

abbrev Fields := List (String × Value)

namespace Fields

def find? (fs : Fields) (name : String) : Option Value := fs.lookup name

/-- The value under a name, and null where there is none. -/
def get (fs : Fields) (name : String) : Value := (fs.find? name).getD .null

def has (fs : Fields) (name : String) : Bool := (fs.find? name).isSome

/-- Sets a name in place, or at the end if it is new. -/
def put : Fields → String → Value → Fields
  | [], name, v => [(name, v)]
  | (k, w) :: rest, name, v => if k = name then (k, v) :: rest else (k, w) :: put rest name v

/-- The pairs in order, where a later value of a name replaces an earlier one. -/
def ofPairs (ps : List (String × Value)) : Fields := ps.foldl (fun fs p => put fs p.1 p.2) []

def names (fs : Fields) : List String := fs.map (·.1)

theorem put_of_notMem {fs : Fields} {name : String} (new : name ∉ fs.names) (v : Value) :
    fs.put name v = fs ++ [(name, v)] := by
  induction fs with
  | nil => rfl
  | cons f fs ih =>
    obtain ⟨other, later⟩ := List.ne_and_not_mem_of_not_mem_cons new
    rw [put, if_neg (Ne.symm other), ih later, List.cons_append]

theorem foldl_put {fs ps : Fields} (distinct : (fs.names ++ ps.names).Nodup) :
    ps.foldl (fun fs p => put fs p.1 p.2) fs = fs ++ ps := by
  induction ps generalizing fs with
  | nil => rw [List.foldl_nil, List.append_nil]
  | cons p ps ih =>
    have new : p.1 ∉ fs.names := fun old =>
      (List.nodup_append.1 distinct).2.2 _ old _ List.mem_cons_self rfl
    have moved : (names (fs ++ [p]) ++ names ps).Nodup := by
      simpa [names] using distinct
    rw [List.foldl_cons, put_of_notMem new, ih moved, List.append_assoc, List.singleton_append]

end Fields

namespace Value

/-- Null, false, zero and all that is empty are false; everything else is true. -/
def isTruthy : Value → Bool
  | .null => false
  | .bool b => b
  | .int n => n != 0
  | .float x => !(x == 0.0)
  | .text s => !s.isEmpty
  | .list items => !items.isEmpty
  | .map entries => !entries.isEmpty
  | .keyed entries => !entries.isEmpty
  | .date _ => true
  | .moment _ => true

def text? : Value → Option String
  | .text s => some s
  | _ => none

/-- The entries of a map whose keys are text, and none of anything else. -/
def fields : Value → Fields
  | .map entries => entries
  | .keyed entries => entries.filterMap fun (k, v) => k.text?.map fun k => (k, v)
  | _ => []

def isMapping : Value → Bool
  | .map _ | .keyed _ => true
  | _ => false

end Value
end PageSkins
