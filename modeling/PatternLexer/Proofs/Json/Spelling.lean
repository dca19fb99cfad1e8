import PatternLexer.Json.Printer

set_option autoImplicit false

namespace PatternLexer.Json

def spellString : Option String → List Char
  | some s => '"' :: (s.toList.flatMap fun c => (escape c).toList) ++ ['"']
  | none => ['"', '\\', 'u', 'd', '8', '0', '0', '"']

mutual

def spell : Json → List Char
  | null => ['n', 'u', 'l', 'l']
  | bool true => ['t', 'r', 'u', 'e']
  | bool false => ['f', 'a', 'l', 's', 'e']
  | int n => (toString n).toList
  | real spelling => spelling.toList
  | string t => spellString t
  | array [] => ['[', ']']
  | array (v :: vs) => '[' :: (spell v ++ (spellItems vs ++ [']']))
  | object [] => ['\x7b', '\x7d']
  | object (m :: ms) => '\x7b' :: (spellMember m ++ (spellMembers ms ++ ['\x7d']))

def spellItems : List Json → List Char
  | [] => []
  | v :: vs => ',' :: (spell v ++ spellItems vs)

def spellMember : Option String × Json → List Char
  | (name, v) => spellString name ++ ':' :: spell v

def spellMembers : List (Option String × Json) → List Char
  | [] => []
  | m :: ms => ',' :: (spellMember m ++ spellMembers ms)

end

inductive Exact : Json → Prop where
  | null : Exact null
  | bool (b : Bool) : Exact (bool b)
  | int (n : Int) : Exact (int n)
  | text (s : String) : Exact (text s)
  | array {vs : List Json} (items : ∀ v ∈ vs, Exact v) : Exact (array vs)
  | object {ms : List (Option String × Json)} (names : ∀ m ∈ ms, m.1.isSome = true)
      (values : ∀ m ∈ ms, Exact m.2) : Exact (object ms)

theorem exact_record {members : List (String × Json)} (values : ∀ m ∈ members, Exact m.2) :
    Exact (record members) := by
  refine .object (fun m member => ?_) (fun m member => ?_)
  · obtain ⟨m', -, rfl⟩ := List.mem_map.mp member
    rfl
  · obtain ⟨m', member', rfl⟩ := List.mem_map.mp member
    exact values m' member'

theorem escapes_onto (done : String) (cs : List Char) :
    (cs.foldl (fun acc c => acc ++ escape c) done).toList =
      done.toList ++ cs.flatMap fun c => (escape c).toList := by
  induction cs generalizing done with
  | nil => simp
  | cons c cs ih => rw [List.foldl_cons, ih, String.toList_append, List.flatMap_cons, List.append_assoc]

theorem quote_onto (done : String) (t : Option String) :
    (quoteOnto done t).toList = done.toList ++ spellString t := by
  cases t with
  | none => simp [quoteOnto, spellString]
  | some s => simp [quoteOnto, spellString, escapes_onto]

mutual

theorem write_onto (done : String) : ∀ v : Json, (writeOnto done v).toList = done.toList ++ spell v
  | null => by simp [writeOnto, spell]
  | bool true => by simp [writeOnto, spell]
  | bool false => by simp [writeOnto, spell]
  | int n => by simp [writeOnto, spell]
  | real spelling => by simp [writeOnto, spell]
  | string t => by rw [writeOnto, spell, quote_onto]
  | array [] => by simp [writeOnto, spell]
  | array (v :: vs) => by simp [writeOnto, spell, items_onto _ vs, write_onto _ v]
  | object [] => by simp [writeOnto, spell]
  | object (m :: ms) => by simp [writeOnto, spell, members_onto _ ms, member_onto _ m]

theorem items_onto (done : String) :
    ∀ vs : List Json, (writeItemsOnto done vs).toList = done.toList ++ spellItems vs
  | [] => by simp [writeItemsOnto, spellItems]
  | v :: vs => by simp [writeItemsOnto, spellItems, items_onto _ vs, write_onto _ v]

theorem member_onto (done : String) :
    ∀ m : Option String × Json, (writeMemberOnto done m).toList = done.toList ++ spellMember m
  | (name, v) => by simp [writeMemberOnto, spellMember, write_onto _ v, quote_onto]

theorem members_onto (done : String) :
    ∀ ms : List (Option String × Json), (writeMembersOnto done ms).toList = done.toList ++ spellMembers ms
  | [] => by simp [writeMembersOnto, spellMembers]
  | m :: ms => by simp [writeMembersOnto, spellMembers, members_onto _ ms, member_onto _ m]

end

theorem write_spell (v : Json) : (write v).toList = spell v := by
  rw [write, write_onto]
  simp

end PatternLexer.Json
