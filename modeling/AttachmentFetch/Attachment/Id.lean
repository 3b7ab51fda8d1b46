/-! Identifiers. Both kinds are row numbers of the message database, kept apart
so that one is never taken for the other. -/
namespace AttachmentFetch

structure AttachmentId where
  value : Int64
  deriving DecidableEq, Repr

structure MessageId where
  value : Int64
  deriving DecidableEq, Repr

instance : ToString AttachmentId := ⟨fun id => toString id.value.toInt⟩
instance : ToString MessageId := ⟨fun id => toString id.value.toInt⟩

end AttachmentFetch
