import SchemaProjection.Proofs.Navigation
import SchemaProjection.Proofs.Pieces

/-!
# Paths that go on behind others

What a path comes to depends on its beginning only through what that comes to. If the beginning
fails, the whole path fails in the same way; if it leads to a scalar, its last segment is where
the path ends; and otherwise the rest of the path is followed from the type that the beginning
leads to. Faults tell the whole path, so between these readings no more than that text changes
(`PathFault.inPath`).
-/
namespace SchemaProjection

/-- A fault told of another path. -/
def PathFault.inPath (path : String) : PathFault → PathFault
  | .unresolvedType _ type => .unresolvedType path type
  | .unknownField segment type _ suggestion => .unknownField segment type path suggestion
  | .notNavigable segment type _ => .notNavigable segment type path

/-- A path of one segment has it as its last one. -/
theorem Text.lastSegment_of_single {path : String} (single : Text.segments path = [path]) :
    Text.lastSegment path = path := by
  rw [lastSegment, single]
  rfl

/-- A path that ends in a segment has it as its last one. -/
theorem Text.lastSegment_append {front last : String} (single : Text.segments last = [last]) :
    Text.lastSegment (front ++ "." ++ last) = last := by
  rw [lastSegment, segments_append, single, List.getLast?_concat, Option.getD_some]

namespace Navigation

variable {navigation : Navigation}

/-- The path that a segment is of changes its look-up only in the path that a fault tells. -/
theorem fieldAt_inPath (path other type segment : String) (suggest : Text.Suggester) :
    navigation.fieldAt path type segment suggest =
      (navigation.fieldAt other type segment suggest).mapError (.inPath path) := by
  rw [fieldAt, fieldAt]
  cases navigation.registry.lookup type with
  | none => rfl
  | some fields =>
    cases found : fields.find? segment <;> simp [found, Except.mapError, PathFault.inPath]

/-- The path that segments are of changes how they are followed only in the path that a fault
tells. -/
theorem follow_inPath (path other type segment : String) (rest : List String)
    (suggest : Text.Suggester) :
    navigation.follow path type segment rest suggest =
      (navigation.follow other type segment rest suggest).mapError (.inPath path) := by
  induction rest generalizing type segment with
  | nil => exact fieldAt_inPath path other type segment suggest
  | cons next rest ih =>
    rw [follow_cons, follow_cons, fieldAt_inPath path other]
    cases navigation.fieldAt other type segment suggest with
    | error fault => rfl
    | ok field =>
      by_cases scalar : navigation.classifier.kindOf field.relatedType = .scalar
      · simp [Except.mapError, scalar, PathFault.inPath]
      · simp [Except.mapError, scalar, ih]

/-- What segments come to is determined by what the first of them come to. -/
theorem follow_append (navigation : Navigation) (path type segment next : String)
    (front back : List String) :
    match navigation.follow path type segment front with
    | .error fault => navigation.follow path type segment (front ++ next :: back) = .error fault
    | .ok field =>
      if navigation.classifier.kindOf field.relatedType = .scalar then
        ∃ fault, navigation.follow path type segment (front ++ next :: back) = .error fault
      else
        navigation.follow path type segment (front ++ next :: back) =
          navigation.follow path field.relatedType next back := by
  induction front generalizing type segment with
  | nil =>
    rw [follow, List.nil_append, follow_cons]
    cases navigation.fieldAt path type segment with
    | error fault => rfl
    | ok field =>
      by_cases scalar : navigation.classifier.kindOf field.relatedType = .scalar <;> simp [scalar]
  | cons first front ih =>
    rw [follow_cons, List.cons_append, follow_cons]
    cases navigation.fieldAt path type segment with
    | error fault => rfl
    | ok field =>
      by_cases scalar : navigation.classifier.kindOf field.relatedType = .scalar
      · simp [scalar]
      · simpa only [scalar, if_false] using ih field.relatedType first

/-- What a path comes to is determined by what its beginning comes to. -/
theorem resolve_append (navigation : Navigation) (root front back : String) :
    match navigation.resolve root front with
    | .error fault =>
      navigation.resolve root (front ++ "." ++ back) =
        .error (fault.inPath (front ++ "." ++ back))
    | .ok field =>
      if navigation.classifier.kindOf field.relatedType = .scalar then
        ∃ fault, navigation.resolve root (front ++ "." ++ back) = .error fault
      else
        navigation.resolve root (front ++ "." ++ back) =
          (navigation.resolve field.relatedType back).mapError
            (.inPath (front ++ "." ++ back)) := by
  obtain ⟨segment, before, begins⟩ := List.exists_cons_of_ne_nil (Text.segments_ne_nil front)
  obtain ⟨next, behind, ends⟩ := List.exists_cons_of_ne_nil (Text.segments_ne_nil back)
  have start : navigation.resolve root front = navigation.follow front root segment before := by
    rw [resolve, begins]
  have whole : navigation.resolve root (front ++ "." ++ back) =
      navigation.follow (front ++ "." ++ back) root segment (before ++ next :: behind) := by
    rw [resolve, Text.segments_append, begins, ends]
    rfl
  have rest (type : String) :
      navigation.follow (front ++ "." ++ back) type next behind =
        (navigation.resolve type back).mapError (.inPath (front ++ "." ++ back)) := by
    rw [resolve, ends]
    exact follow_inPath ..
  have parts :=
    navigation.follow_append (front ++ "." ++ back) root segment next before behind
  rw [follow_inPath _ front, ← start, ← whole] at parts
  simp only [rest] at parts
  cases found : navigation.resolve root front <;> rw [found] at parts <;> exact parts

/-- Where the beginning of a path leads to a field that is no scalar, the rest is followed from the
type of the field. -/
theorem resolve_append_of_ok {root front : String} {field : Field}
    (leads : navigation.resolve root front = .ok field)
    (goes : navigation.classifier.kindOf field.relatedType ≠ .scalar) (back : String) :
    navigation.resolve root (front ++ "." ++ back) =
      (navigation.resolve field.relatedType back).mapError (.inPath (front ++ "." ++ back)) := by
  simpa only [leads, goes, if_false] using navigation.resolve_append root front back

/-- A path leads on only behind a field that is no scalar. -/
theorem goes_of_resolve_append {root front back : String} {field : Field}
    (leads : navigation.resolve root (front ++ "." ++ back) = .ok field) :
    ∃ behind, navigation.resolve root front = .ok behind ∧
      navigation.classifier.kindOf behind.relatedType ≠ .scalar := by
  have parts := navigation.resolve_append root front back
  cases found : navigation.resolve root front with
  | error fault =>
    rw [found] at parts
    cases leads.symm.trans parts
  | ok behind =>
    refine ⟨behind, rfl, fun scalar => ?_⟩
    simp only [found, scalar, if_true] at parts
    obtain ⟨fault, fails⟩ := parts
    cases leads.symm.trans fails

/-- The last segment of a path is looked up on a type: on the root if it is the only segment, and
otherwise on the type of the field that the path before it leads to. -/
inductive EndsOn (navigation : Navigation) (root : String) : String → String → Prop
  /-- The path is one segment. -/
  | single {segment : String} (single : Text.segments segment = [segment]) :
    EndsOn navigation root segment root
  /-- The path leads to a field before its last segment. -/
  | behind {front last : String} {field : Field} (single : Text.segments last = [last])
    (leads : navigation.resolve root front = .ok field) :
    EndsOn navigation root (front ++ "." ++ last) field.relatedType

/-- Nothing goes on behind a segment that is a scalar. -/
theorem resolve_segment_of_scalar {root segment : String} {field : Field}
    (single : Text.segments segment = [segment])
    (leads : navigation.resolve root segment = .ok field)
    (scalar : navigation.classifier.kindOf field.relatedType = .scalar) (back : String) :
    navigation.resolve root (segment ++ "." ++ back) =
      .error (.notNavigable segment root (segment ++ "." ++ back)) := by
  obtain ⟨next, behind, ends⟩ := List.exists_cons_of_ne_nil (Text.segments_ne_nil back)
  rw [resolve, single] at leads
  have looked : navigation.fieldAt (segment ++ "." ++ back) root segment = .ok field := by
    rw [fieldAt_inPath _ segment, show navigation.fieldAt segment root segment = _ from leads]
    rfl
  rw [resolve, Text.segments_append, single, ends]
  change navigation.follow _ root segment (next :: behind) = _
  rw [follow_cons, looked]
  exact if_pos scalar

/-- Nothing goes on behind a path that leads to a scalar. -/
theorem resolve_append_of_scalar {root front : String} {field : Field}
    (leads : navigation.resolve root front = .ok field)
    (scalar : navigation.classifier.kindOf field.relatedType = .scalar) (back : String) :
    ∃ type, navigation.EndsOn root front type ∧
      navigation.resolve root (front ++ "." ++ back) =
        .error (.notNavigable (Text.lastSegment front) type (front ++ "." ++ back)) := by
  obtain ⟨before, last, divided⟩ :=
    (List.eq_nil_or_concat' (Text.segments front)).resolve_left (Text.segments_ne_nil front)
  by_cases only : before = []
  · rw [only, List.nil_append] at divided
    obtain rfl := Text.eq_of_segments_eq_singleton divided
    rw [Text.lastSegment_of_single divided]
    exact ⟨root, .single divided, resolve_segment_of_scalar divided leads scalar back⟩
  · obtain ⟨first, other, rfl, -, single⟩ :=
      Text.exists_of_segments_eq_append divided only (List.cons_ne_nil last [])
    obtain rfl := Text.eq_of_segments_eq_singleton single
    obtain ⟨behind, found, goes⟩ := goes_of_resolve_append leads
    rw [resolve_append_of_ok found goes] at leads
    have looked : navigation.resolve behind.relatedType other = .ok field := by
      cases ends : navigation.resolve behind.relatedType other <;>
        simp_all [Except.mapError]
    refine ⟨behind.relatedType, .behind single found, ?_⟩
    have regrouped : first ++ "." ++ other ++ "." ++ back =
        first ++ "." ++ (other ++ "." ++ back) := by
      simp only [String.append_assoc]
    rw [Text.lastSegment_append single, regrouped, resolve_append_of_ok found goes,
      resolve_segment_of_scalar single looked scalar]
    rfl

/-- Following paths is compositional: what a path comes to that goes on behind another one is
determined by what that one comes to. If it fails, so does the longer path, with the same fault
told of it; if it leads to a scalar, the longer path ends at its last segment, on the type that
this was looked up on; and otherwise the longer path comes to what its rest comes to from there,
with faults told of all of it. -/
theorem resolve_compositional (navigation : Navigation) (root front back : String) :
    let path := front ++ "." ++ back
    match navigation.resolve root front with
    | .error fault => navigation.resolve root path = .error (fault.inPath path)
    | .ok field =>
      if navigation.classifier.kindOf field.relatedType = .scalar then
        ∃ type, navigation.EndsOn root front type ∧
          navigation.resolve root path = .error (.notNavigable (Text.lastSegment front) type path)
      else
        navigation.resolve root path =
          (navigation.resolve field.relatedType back).mapError (.inPath path) := by
  intro path
  have parts := navigation.resolve_append root front back
  cases leads : navigation.resolve root front with
  | error fault =>
    rw [leads] at parts
    exact parts
  | ok field =>
    by_cases scalar : navigation.classifier.kindOf field.relatedType = .scalar
    · simp only [scalar, if_true]
      exact resolve_append_of_scalar leads scalar back
    · simp only [scalar, if_false]
      exact resolve_append_of_ok leads scalar back

end Navigation

end SchemaProjection
