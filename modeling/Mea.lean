import Mea.Internal
import Mea.Channel.State
import Mea.Channel.Step
import Mea.Channel.Frame
import Mea.Channel.Mutex
import Mea.Channel.Delivery
import Mea.Channel.Endpoints
import Mea.Channel.Wakeup
import Mea.Channel.Stranded
import Mea.Channel.Closed
import Mea.Channel.Capacity
import Mea.Channel.Queue
import Mea.Semaphore.Permits
import Mea.Semaphore.Fairness
import Mea.RwLock.Guards
import Mea.RwLock.Refinement
