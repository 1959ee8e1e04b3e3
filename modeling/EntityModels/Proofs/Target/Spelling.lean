import EntityModels.Proofs.Lists
import EntityModels.Proofs.Naming.Legality
import EntityModels.Target.Type

/-!
Reading a type off its spelling. A spelling begins with a name, and what follows the name is the
spelling of the elements between an opening and a closing. The name decides the outermost type as
long as no class has the name of another type, so the spelling decides the type except for what it
does not show: the entities of classes and the targets that do not resolve.
-/
namespace EntityModels.TargetType

open Naming

variable {s t : TargetType} {kind : ContainerKind} {element : TargetType} {name : String}

/-- The type without what its spelling does not show: the entity of a class, and the target of a
reference that does not resolve. -/
def anonymous : TargetType → TargetType
  | .container kind element => .container kind element.anonymous
  | .model _ className => .model "" className
  | .unresolved _ => .unresolved ""
  | type => type

/-- The names that types other than classes have. -/
def reservedNames : List String :=
  ["BOOL", "NSInteger", "CGFloat", "NSString", "NSURL", "NSDate", "NSArray", "NSDictionary"]

/-- Every class in the type is named by an identifier that no other type has for a name. -/
def Legible (type : TargetType) : Prop :=
  ∀ className ∈ type.classNames, isIdentifier className ∧ className ∉ reservedNames

instance (type : TargetType) : Decidable type.Legible :=
  inferInstanceAs (Decidable (∀ className ∈ type.classNames, _))

/-- The type without what its spelling does not show, and without the elements of a container. -/
def outermost : TargetType → TargetType
  | .container kind _ => .untyped kind
  | type => type.anonymous

/-- What stands between the name of a container and the spelling of its elements. -/
def opening : ContainerKind → String
  | .array => "<"
  | .map => "<NSString *, "

/-- What follows the name in the spelling of a type. -/
def arguments : TargetType → String
  | .container kind element => opening kind ++ (element.spelling ++ " *>")
  | _ => ""

/-- A class is spelled by its name. The equations of `spelling` compare its literals, and are too
slow to rewrite with. -/
theorem spelling_model (entity className : String) :
    (TargetType.model entity className).spelling = className := rfl

theorem spelling_unresolved (target : String) : (TargetType.unresolved target).spelling = "" := rfl

/-- A container is spelled by its name and then the elements, between the opening and the
closing. -/
theorem spelling_container (kind : ContainerKind) (element : TargetType) :
    (container kind element).spelling =
      (untyped kind).spelling ++ (opening kind ++ (element.spelling ++ " *>")) := by
  cases kind with
  | array =>
    have hliteral : "NSArray" ++ "<" = "NSArray<" := by decide
    rw [← String.append_assoc, opening, ← String.append_assoc]
    exact congrArg (· ++ element.spelling ++ " *>") hliteral.symm
  | map =>
    have hliteral : "NSDictionary" ++ "<NSString *, " = "NSDictionary<NSString *, " := by decide
    rw [← String.append_assoc, opening, ← String.append_assoc]
    exact congrArg (· ++ element.spelling ++ " *>") hliteral.symm

theorem spelling_container_ne_empty (kind : ContainerKind) (element : TargetType) :
    (container kind element).spelling ≠ "" := by
  intro h
  rw [spelling_container, String.append_eq_empty_iff] at h
  exact absurd h.1 (by cases kind <;> decide)

/-- Nothing is spelled for a target that does not resolve and for a class without a name. -/
theorem spelling_eq_empty_iff {type : TargetType} :
    type.spelling = "" ↔
      (∃ target, type = .unresolved target) ∨ ∃ entity, type = .model entity "" := by
  cases type with
  | primitive cast => cases cast <;> exact iff_of_false (by decide) (by simp)
  | string | url | date => exact iff_of_false (by decide) (by simp)
  | untyped kind => cases kind <;> exact iff_of_false (by decide) (by simp)
  | container kind element =>
    exact iff_of_false (spelling_container_ne_empty kind element) (by simp)
  | model entity className => simp [spelling_model]
  | unresolved target => exact iff_of_true rfl (by simp)

theorem spelling_eq_append (type : TargetType) :
    type.spelling = type.outermost.spelling ++ type.arguments := by
  cases type with
  | container kind element => exact spelling_container kind element
  | _ => exact String.append_empty.symm

theorem spelling_anonymous (type : TargetType) : type.anonymous.spelling = type.spelling := by
  induction type with
  | container kind element ih => rw [anonymous, spelling_container, spelling_container, ih]
  | _ => rfl

theorem ownership_anonymous (type : TargetType) : type.anonymous.ownership = type.ownership := by
  cases type <;> rfl

theorem isPointer_anonymous (type : TargetType) : type.anonymous.isPointer = type.isPointer := by
  cases type <;> rfl

theorem arguments_container_ne_empty : (container kind element).arguments ≠ "" := by
  intro h
  rw [arguments, String.append_eq_empty_iff] at h
  exact absurd h.1 (by cases kind <;> decide)

/-- The types that are known by a name of their own. -/
def builtins : List TargetType :=
  [.primitive .boolean, .primitive .integer, .primitive .float, .string, .url, .date,
    .untyped .array, .untyped .map]

theorem reservedNames_eq : reservedNames = builtins.map spelling := rfl

theorem isIdentifier_of_mem_reservedNames (h : name ∈ reservedNames) : isIdentifier name := by
  revert name
  decide

theorem spelling_mem_reservedNames (h : t ∈ builtins) : t.spelling ∈ reservedNames := by
  rw [reservedNames_eq]
  exact List.mem_map_of_mem h

theorem untyped_mem_builtins (kind : ContainerKind) : untyped kind ∈ builtins := by
  cases kind <;> decide

/-- The outermost type is built in, or does not resolve, or is a class. -/
theorem outermost_cases (type : TargetType) :
    type.outermost ∈ builtins ∨ type.outermost = .unresolved "" ∨
      ∃ className ∈ type.classNames, type.outermost = .model "" className := by
  cases type with
  | primitive cast => cases cast <;> exact .inl (by decide)
  | string | url | date => exact .inl (by decide)
  | untyped kind | container kind => exact .inl (untyped_mem_builtins kind)
  | model entity className => exact .inr (.inr ⟨className, List.mem_cons_self, rfl⟩)
  | unresolved target => exact .inr (.inl rfl)

/-- The type that a name spells: one with a name of its own, none, or else a class. -/
def named (name : String) : TargetType :=
  (builtins.find? fun type => type.spelling = name).getD
    (if name = "" then .unresolved "" else .model "" name)

theorem named_spelling_of_mem_builtins (h : t ∈ builtins) : named t.spelling = t := by
  have hd : (builtins.map spelling).Nodup := by decide
  have hfind : builtins.find? (fun type => type.spelling = t.spelling) = some t :=
    (find?_eq_some_iff_of_nodup hd).mpr ⟨h, rfl⟩
  rw [named, hfind, Option.getD_some]

/-- A name that is not reserved is that of a class, and no name is that of a target that does not
resolve. -/
theorem named_of_notMem_reservedNames (h : name ∉ reservedNames) :
    named name = if name = "" then .unresolved "" else .model "" name := by
  have hfind : builtins.find? (fun type => type.spelling = name) = none := by
    refine List.find?_eq_none.mpr fun type hmem hname => h ?_
    obtain rfl : type.spelling = name := by simpa using hname
    exact spelling_mem_reservedNames hmem
  rw [named, hfind, Option.getD_none]

/-- In a legible type the name decides the outermost type. -/
theorem named_outermost (ht : t.Legible) : named t.outermost.spelling = t.outermost := by
  rcases t.outermost_cases with hmem | hunresolved | ⟨className, hmem, hmodel⟩
  · exact named_spelling_of_mem_builtins hmem
  · rw [hunresolved]
    exact named_of_notMem_reservedNames (by decide)
  · obtain ⟨hidentifier, hreserved⟩ := ht className hmem
    rw [hmodel, spelling_model, named_of_notMem_reservedNames hreserved,
      if_neg (ne_empty_of_isIdentifier hidentifier)]

theorem isIdentifierPart_of_mem_outermost (ht : t.Legible) {c : Char}
    (hc : c ∈ t.outermost.spelling.toList) : isIdentifierPart c := by
  rcases t.outermost_cases with hmem | hunresolved | ⟨className, hmem, hmodel⟩
  · have hreserved := spelling_mem_reservedNames hmem
    exact isIdentifierPart_of_mem (isIdentifier_of_mem_reservedNames hreserved) hc
  · rw [hunresolved, spelling_unresolved] at hc
    simp at hc
  · rw [hmodel, spelling_model] at hc
    exact isIdentifierPart_of_mem (ht className hmem).1 hc

/-- What follows a name cannot be in a name. -/
theorem takeWhile_arguments (type : TargetType) :
    type.arguments.toList.takeWhile isIdentifierPart = [] := by
  cases type with
  | container kind element =>
    rw [arguments, String.toList_append]
    cases kind <;> rfl
  | _ => rfl

/-- The characters of identifiers in front of a spelling are the name of the outermost type. -/
theorem takeWhile_spelling (ht : t.Legible) :
    t.spelling.toList.takeWhile isIdentifierPart = t.outermost.spelling.toList := by
  have hname : ∀ c ∈ t.outermost.spelling.toList, isIdentifierPart c :=
    fun c hc => isIdentifierPart_of_mem_outermost ht hc
  rw [spelling_eq_append, String.toList_append, List.takeWhile_append_of_pos hname,
    takeWhile_arguments, List.append_nil]

/-- Legible types with one spelling have one outermost type. -/
theorem outermost_eq_of_spelling_eq (hs : s.Legible) (ht : t.Legible)
    (h : s.spelling = t.spelling) : s.outermost = t.outermost := by
  have hname : s.outermost.spelling = t.outermost.spelling := by
    apply String.toList_inj.mp
    rw [← takeWhile_spelling hs, ← takeWhile_spelling ht, h]
  rw [← named_outermost hs, ← named_outermost ht, hname]

theorem arguments_eq_of_spelling_eq (hs : s.Legible) (ht : t.Legible)
    (h : s.spelling = t.spelling) : s.arguments = t.arguments := by
  have houtermost := outermost_eq_of_spelling_eq hs ht h
  rw [spelling_eq_append s, spelling_eq_append t, houtermost] at h
  exact (String.append_right_inj _).mp h

/-- Only a container has arguments. -/
theorem exists_eq_container (houtermost : t.outermost = .untyped kind)
    (harguments : t.arguments ≠ "") : ∃ element, t = .container kind element := by
  cases t with
  | container kind' element =>
    obtain rfl : kind' = kind := TargetType.untyped.inj houtermost
    exact ⟨element, rfl⟩
  | _ => exact absurd rfl harguments

theorem outermost_eq_anonymous (h : t.arguments = "") : t.outermost = t.anonymous := by
  cases t with
  | container kind element => exact absurd h arguments_container_ne_empty
  | _ => rfl

/-- Legible types with one spelling differ in what the spelling does not show only. -/
theorem anonymous_eq_of_spelling_eq (hs : s.Legible) (ht : t.Legible)
    (h : s.spelling = t.spelling) : s.anonymous = t.anonymous := by
  induction s generalizing t with
  | container kind element ih =>
    have houtermost := outermost_eq_of_spelling_eq hs ht h
    have harguments := arguments_eq_of_spelling_eq hs ht h
    obtain ⟨element', rfl⟩ : ∃ element', t = .container kind element' :=
      exists_eq_container houtermost.symm (harguments ▸ arguments_container_ne_empty)
    rw [arguments, arguments, String.append_right_inj, String.append_left_inj] at harguments
    have helement : element.anonymous = element'.anonymous := ih hs ht harguments
    rw [anonymous, anonymous, helement]
  | _ =>
    have harguments := arguments_eq_of_spelling_eq hs ht h
    rw [← outermost_eq_anonymous harguments.symm]
    exact outermost_eq_of_spelling_eq hs ht h

/-- Legible types have one spelling when they are the same up to what it does not show. -/
theorem spelling_eq_iff (hs : s.Legible) (ht : t.Legible) :
    s.spelling = t.spelling ↔ s.anonymous = t.anonymous := by
  refine ⟨anonymous_eq_of_spelling_eq hs ht, fun h => ?_⟩
  rw [← spelling_anonymous s, ← spelling_anonymous t, h]

end EntityModels.TargetType
