import Libgav1.BufferPool.Basic
import Libgav1.BufferPool.Invariant
import Libgav1.BufferPool.Properties
import Libgav1.BufferPool.Growth
import Libgav1.Cdef.Memory
import Libgav1.Cdef.Frame
import Libgav1.Cdef.Prepare
import Libgav1.Cdef.Unit
import Libgav1.Cdef.SuperBlockRow
import Libgav1.Cdef.Threaded
import Libgav1.Cdef.Safety
import Libgav1.Cdef.Jobs
import Libgav1.Cdef.Drivers
import Libgav1.BufferPool.Allocator
import Libgav1.Dsp.WeightMaskTest
