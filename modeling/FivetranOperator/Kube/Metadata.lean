import FivetranOperator.Api.Types

/-!
# Annotation, label and finalizer helpers

`internal/kubeutils/metadata.go` and the two `controllerutil` finalizer helpers the reconciler
calls. Each edits the in-memory object only; nothing here writes to the API server. The label
predicate of `kubeutils` closes the module.
-/

namespace FivetranOperator

namespace FivetranConnector

/-- Replace the metadata of an object. -/
def withMetadata (o : FivetranConnector) (m : ObjectMeta) : FivetranConnector :=
  { o with metadata := m }

/-- `GetAnnotation`: the value, or "" when the key is absent. -/
def getAnnotationValue (o : FivetranConnector) (key : String) : String :=
  (o.metadata.annotations.get? key).getD ""

/-- `SetAnnotation`. -/
def setAnnotationValue (o : FivetranConnector) (key value : String) : FivetranConnector :=
  o.withMetadata { o.metadata with annotations := o.metadata.annotations.insert key value }

/-- `HasAnnotation`. -/
def hasAnnotationKey (o : FivetranConnector) (key : String) : Bool :=
  (o.metadata.annotations.get? key).isSome

/-- `RemoveAnnotation`. -/
def removeAnnotationKey (o : FivetranConnector) (key : String) : FivetranConnector :=
  o.withMetadata { o.metadata with annotations := o.metadata.annotations.erase key }

/-- `HasLabel`. -/
def hasLabel (o : FivetranConnector) (key : String) : Bool :=
  (o.metadata.labels.get? key).isSome

/-- `RemoveLabel`. -/
def removeLabel (o : FivetranConnector) (key : String) : FivetranConnector :=
  o.withMetadata { o.metadata with labels := o.metadata.labels.erase key }

/-- `controllerutil.ContainsFinalizer`. -/
def containsFinalizer (o : FivetranConnector) (f : String) : Bool :=
  o.metadata.finalizers.contains f

/-- `controllerutil.AddFinalizer`: append when absent. -/
def addFinalizer (o : FivetranConnector) (f : String) : FivetranConnector :=
  if o.containsFinalizer f then o
  else o.withMetadata { o.metadata with finalizers := o.metadata.finalizers ++ [f] }

/-- `controllerutil.RemoveFinalizer`: drop every copy. -/
def removeFinalizer (o : FivetranConnector) (f : String) : FivetranConnector :=
  o.withMetadata { o.metadata with finalizers := o.metadata.finalizers.filter (· != f) }

/-- Replacing the metadata keeps the spec. -/
@[simp] theorem withMetadata_spec (o : FivetranConnector) (m : ObjectMeta) :
    (o.withMetadata m).spec = o.spec := rfl

/-- Replacing the metadata keeps the status. -/
@[simp] theorem withMetadata_status (o : FivetranConnector) (m : ObjectMeta) :
    (o.withMetadata m).status = o.status := rfl

/-- Replacing the metadata sets it. -/
@[simp] theorem withMetadata_metadata (o : FivetranConnector) (m : ObjectMeta) :
    (o.withMetadata m).metadata = m := rfl

/-- The annotation just set reads back. -/
@[simp] theorem getAnnotationValue_setAnnotationValue_self (o : FivetranConnector) (k v : String) :
    (o.setAnnotationValue k v).getAnnotationValue k = v := by
  simp [getAnnotationValue, setAnnotationValue]

/-- Setting one annotation leaves the others alone. -/
@[simp] theorem getAnnotationValue_setAnnotationValue_ne (o : FivetranConnector) {k j : String} (v : String)
    (h : j ≠ k) : (o.setAnnotationValue k v).getAnnotationValue j = o.getAnnotationValue j := by
  simp [getAnnotationValue, setAnnotationValue, h]

/-- Removing one annotation leaves the others alone. -/
@[simp] theorem getAnnotationValue_removeAnnotationKey_ne (o : FivetranConnector) {k j : String}
    (h : j ≠ k) : (o.removeAnnotationKey k).getAnnotationValue j = o.getAnnotationValue j := by
  simp [getAnnotationValue, removeAnnotationKey, h]

/-- Removing a label leaves every annotation alone. -/
@[simp] theorem getAnnotationValue_removeLabel (o : FivetranConnector) (k j : String) :
    (o.removeLabel k).getAnnotationValue j = o.getAnnotationValue j := rfl

/-- A finalizer just added is present. -/
@[simp] theorem containsFinalizer_addFinalizer (o : FivetranConnector) (f : String) :
    (o.addFinalizer f).containsFinalizer f := by
  unfold addFinalizer
  split
  · assumption
  · simp [containsFinalizer]

/-- Adding a finalizer leaves the status alone. -/
@[simp] theorem addFinalizer_status (o : FivetranConnector) (f : String) :
    (o.addFinalizer f).status = o.status := by
  unfold addFinalizer
  split <;> rfl

/-- Adding a finalizer leaves the spec alone. -/
@[simp] theorem addFinalizer_spec (o : FivetranConnector) (f : String) :
    (o.addFinalizer f).spec = o.spec := by
  unfold addFinalizer
  split <;> rfl

/-- Adding a finalizer leaves the annotations alone. -/
@[simp] theorem addFinalizer_annotations (o : FivetranConnector) (f : String) :
    (o.addFinalizer f).metadata.annotations = o.metadata.annotations := by
  unfold addFinalizer
  split <;> rfl

/-- Adding a finalizer leaves the labels alone. -/
@[simp] theorem addFinalizer_labels (o : FivetranConnector) (f : String) :
    (o.addFinalizer f).metadata.labels = o.metadata.labels := by
  unfold addFinalizer
  split <;> rfl

/-- Adding a finalizer leaves every annotation alone. -/
@[simp] theorem getAnnotationValue_addFinalizer (o : FivetranConnector) (f k : String) :
    (o.addFinalizer f).getAnnotationValue k = o.getAnnotationValue k := by
  unfold addFinalizer
  split <;> rfl

/-- A removed finalizer is absent. -/
@[simp] theorem containsFinalizer_removeFinalizer (o : FivetranConnector) (f : String) :
    (o.removeFinalizer f).containsFinalizer f = false := by
  simp [removeFinalizer, containsFinalizer]

end FivetranConnector

/-- `CustomLabelKeyChangedPredicate`: an event filter on one label key. -/
structure CustomLabelKeyChangedPredicate where
  labelKey : String

/-- `(CustomLabelKeyChangedPredicate).Update`: an update passes when it adds the label. -/
def CustomLabelKeyChangedPredicate.update (p : CustomLabelKeyChangedPredicate)
    (old new : FivetranConnector) : Bool :=
  !old.hasLabel p.labelKey && new.hasLabel p.labelKey

end FivetranOperator
