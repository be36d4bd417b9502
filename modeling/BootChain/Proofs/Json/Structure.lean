import BootChain.Json

namespace BootChain.Json

/-- What passes from the parts of a document to the whole holds of every document. -/
@[elab_as_elim]
theorem inductionOn {motive : Json → Prop} (document : Json) (null : motive null)
    (bool : ∀ value, motive (bool value)) (int : ∀ value, motive (int value))
    (str : ∀ text, motive (str text))
    (arr : ∀ items, (∀ item ∈ items, motive item) → motive (arr items))
    (obj : ∀ members, (∀ member ∈ members, motive member.2) → motive (obj members)) :
    motive document :=
  @Json.rec motive (fun items => ∀ item ∈ items, motive item)
    (fun members => ∀ member ∈ members, motive member.2) (fun member => motive member.2)
    null bool int str arr obj
    nofun (fun _ _ hfirst hrest => List.forall_mem_cons.2 ⟨hfirst, hrest⟩)
    nofun (fun _ _ hfirst hrest => List.forall_mem_cons.2 ⟨hfirst, hrest⟩)
    (fun _ _ hvalue => hvalue) document

theorem compactItems_eq (items : List Json) : compactItems items = items.map compactChars := by
  induction items with
  | nil => rfl
  | cons item rest ih => rw [compactItems, ih, List.map_cons]

theorem compactMembers_eq (members : List (String × Json)) : compactMembers members =
    members.map fun member => quoted member.1 ++ ':' :: compactChars member.2 := by
  induction members with
  | nil => rfl
  | cons member rest ih => rw [compactMembers, ih, List.map_cons]

theorem sortedItems_eq (items : List Json) : sortedItems items = items.map sorted := by
  induction items with
  | nil => rfl
  | cons item rest ih => rw [sortedItems, ih, List.map_cons]

theorem sortedMembers_eq (members : List (String × Json)) :
    sortedMembers members = members.map fun member => (member.1, sorted member.2) := by
  induction members with
  | nil => rfl
  | cons member rest ih => rw [sortedMembers, ih, List.map_cons]

/-- The names of every object in a document are as `p` says. -/
inductive EachObject (p : List String → Prop) : Json → Prop where
  | null : EachObject p null
  | bool (value : Bool) : EachObject p (bool value)
  | int (value : Int) : EachObject p (int value)
  | str (text : String) : EachObject p (str text)
  | arr {items : List Json} (hitems : ∀ item ∈ items, EachObject p item) : EachObject p (arr items)
  | obj {members : List (String × Json)} (hnames : p (members.map Prod.fst))
      (hvalues : ∀ member ∈ members, EachObject p member.2) : EachObject p (obj members)

section

variable {p : List String → Prop} {items : List Json} {members : List (String × Json)}

attribute [simp] EachObject.null EachObject.bool EachObject.int EachObject.str

@[simp]
theorem eachObject_arr_iff : EachObject p (arr items) ↔ ∀ item ∈ items, EachObject p item :=
  ⟨fun heach => by cases heach; assumption, .arr⟩

@[simp]
theorem eachObject_obj_iff : EachObject p (obj members) ↔
    p (members.map Prod.fst) ∧ ∀ member ∈ members, EachObject p member.2 :=
  ⟨fun heach => by cases heach; exact ⟨‹_›, ‹_›⟩, fun ⟨hnames, hvalues⟩ => .obj hnames hvalues⟩

theorem eachObject_of_forall (hall : ∀ names, p names) (document : Json) :
    EachObject p document := by
  induction document using inductionOn with
  | null => exact .null
  | bool value => exact .bool value
  | int value => exact .int value
  | str text => exact .str text
  | arr items ih => exact .arr ih
  | obj members ih => exact .obj (hall _) ih

end

/-- The order of the names in which canonical text has them. -/
def writtenLE (a b : String) : Bool :=
  String.ofList (quoted a) ≤ String.ofList (quoted b)

mutual

/-- The document with the members of every object in some order of their names. -/
def arranged (le : String → String → Bool) : Json → Json
  | arr items => arr (arrangedItems le items)
  | obj members => obj ((arrangedMembers le members).mergeSort fun a b => le a.1 b.1)
  | null => null
  | bool value => bool value
  | int value => int value
  | str text => str text

def arrangedItems (le : String → String → Bool) : List Json → List Json
  | [] => []
  | item :: rest => arranged le item :: arrangedItems le rest

def arrangedMembers (le : String → String → Bool) :
    List (String × Json) → List (String × Json)
  | [] => []
  | (name, value) :: rest => (name, arranged le value) :: arrangedMembers le rest

end

section

variable {le : String → String → Bool} {p : List String → Prop} {document : Json}

theorem arrangedItems_eq (items : List Json) :
    arrangedItems le items = items.map (arranged le) := by
  induction items with
  | nil => rfl
  | cons item rest ih => rw [arrangedItems, ih, List.map_cons]

theorem arrangedMembers_eq (members : List (String × Json)) :
    arrangedMembers le members = members.map fun member => (member.1, arranged le member.2) := by
  induction members with
  | nil => rfl
  | cons member rest ih => rw [arrangedMembers, ih, List.map_cons]

theorem arranged_arr (items : List Json) :
    arranged le (arr items) = arr (items.map (arranged le)) := by
  rw [arranged, arrangedItems_eq]

theorem arranged_obj (members : List (String × Json)) : arranged le (obj members) =
    obj ((members.map fun member => (member.1, arranged le member.2)).mergeSort
      fun a b => le a.1 b.1) := by
  rw [arranged, arrangedMembers_eq]

/-- Canonical order is the arrangement by the written form of the names. -/
theorem sorted_eq_arranged (document : Json) : document.sorted = document.arranged writtenLE := by
  induction document using inductionOn with
  | null => rfl
  | bool value => rfl
  | int value => rfl
  | str text => rfl
  | arr items ih => rw [sorted, sortedItems_eq, arranged_arr, List.map_congr_left ih]
  | obj members ih =>
    have hvalues : members.map (fun member => (member.1, sorted member.2)) =
        members.map fun member => (member.1, arranged writtenLE member.2) :=
      List.map_congr_left fun member hmember => by rw [ih member hmember]
    rw [sorted, sortedMembers_eq, arranged_obj, hvalues]
    rfl

/-- The names of an arranged document are those of the document, put in order. -/
theorem eachObject_arranged_iff : EachObject p (document.arranged le) ↔
    EachObject (fun names => p (names.mergeSort le)) document := by
  induction document using inductionOn with
  | null => simp [arranged]
  | bool value => simp [arranged]
  | int value => simp [arranged]
  | str text => simp [arranged]
  | arr items ih =>
    rw [arranged_arr, eachObject_arr_iff, eachObject_arr_iff, List.forall_mem_map]
    exact forall₂_congr ih
  | obj members ih =>
    have hnames := List.map_mergeSort (r := fun a b => le a.1 b.1) (s := le) (f := Prod.fst)
      (l := members.map fun member => (member.1, arranged le member.2)) fun _ _ _ _ => rfl
    rw [arranged_obj, eachObject_obj_iff, eachObject_obj_iff, hnames, List.map_map]
    simp only [List.mem_mergeSort, List.forall_mem_map, forall₂_congr ih]
    rfl

/-- An arrangement changes nothing just if the names are in its order in every object. -/
theorem arranged_eq_self_iff (htrans : ∀ a b c, le a b = true → le b c = true → le a c = true)
    (htotal : ∀ a b, (le a b || le b a) = true) : document.arranged le = document ↔
      EachObject (fun names => names.Pairwise fun a b => le a b = true) document := by
  constructor
  · intro heq
    rw [← heq, eachObject_arranged_iff]
    exact eachObject_of_forall (fun names => List.pairwise_mergeSort htrans htotal names) document
  · intro heach
    induction heach with
    | null => rfl
    | bool value => rfl
    | int value => rfl
    | str text => rfl
    | arr _ ih =>
      rw [arranged_arr, List.map_congr_left ih, List.map_id']
    | @obj members hnames _ ih =>
      have hvalues : (members.map fun member => (member.1, arranged le member.2)) = members := by
        rw [List.map_congr_left fun member hmember => by rw [ih member hmember], List.map_id']
      have hsorted : members.Pairwise fun a b => le a.1 b.1 = true := List.pairwise_map.1 hnames
      rw [arranged_obj, hvalues, List.mergeSort_of_pairwise hsorted]

end

end BootChain.Json
