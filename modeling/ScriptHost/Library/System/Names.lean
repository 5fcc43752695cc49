/-!
# Names of the system's libraries

The names for code and data that the libraries define which every program has in memory: the C
library, the linker and the support library of the compiler. Each name has a version; a name whose
meaning has changed has several.
-/

namespace ScriptHost.Library.System

/-- The names of each version, with blanks between them. -/
def nameLines : List (String × List String) :=
  [("GCC_3.0",
    ["_Unwind_DeleteException _Unwind_Find_FDE _Unwind_ForcedUnwind _Unwind_GetDataRelBase",
     "_Unwind_GetGR _Unwind_GetIP _Unwind_GetLanguageSpecificData _Unwind_GetRegionStart",
     "_Unwind_GetTextRelBase _Unwind_RaiseException _Unwind_Resume _Unwind_SetGR _Unwind_SetIP",
     "__absvdi2 __absvsi2 __addvdi3 __addvsi3 __ashlti3 __ashrti3 __clear_cache __cmpti2",
     "__deregister_frame __deregister_frame_info __deregister_frame_info_bases __divti3",
     "__extendsfdf2 __ffsdi2 __ffsti2 __fixdfti __fixsfti __fixunsdfdi __fixunsdfti __fixunssfdi",
     "__fixunssfti __fixunsxfdi __fixunsxfti __fixxfti __floattidf __floattisf __floattixf",
     "__gttf2 __lshrti3 __lttf2 __modti3 __multi3 __mulvdi3 __mulvsi3 __negti2 __negvdi2",
     "__negvsi2 __netf2 __register_frame __register_frame_info __register_frame_info_bases",
     "__register_frame_info_table __register_frame_info_table_bases __register_frame_table",
     "__subvdi3 __subvsi3 __truncdfsf2 __ucmpti2 __udivmodti4 __udivti3 __umodti3"]),
   ("GCC_3.3",
    ["_Unwind_Backtrace _Unwind_FindEnclosingFunction _Unwind_GetCFA _Unwind_Resume_or_Rethrow"]),
   ("GCC_3.3.1",
    ["__gcc_personality_v0"]),
   ("GCC_3.4",
    ["__clzdi2 __clzti2 __ctzdi2 __ctzti2 __paritydi2 __parityti2 __popcountdi2 __popcountti2"]),
   ("GCC_3.4.2",
    ["__enable_execute_stack"]),
   ("GCC_3.4.4",
    ["__absvti2 __addvti3 __mulvti3 __negvti2 __subvti3"]),
   ("GCC_4.0.0",
    ["__divdc3 __divsc3 __divtc3 __divxc3 __muldc3 __mulsc3 __multc3 __mulxc3 __powidf2",
     "__powisf2 __powitf2 __powixf2"]),
   ("GCC_4.2.0",
    ["_Unwind_GetIPInfo __floatuntidf __floatuntisf __floatuntixf"]),
   ("GCC_4.3.0",
    ["__addtf3 __bswapdi2 __bswapsi2 __divtc3 __divtf3 __emutls_get_address",
     "__emutls_register_common __eqtf2 __extenddftf2 __extendsftf2 __extendxftf2 __fixtfdi",
     "__fixtfsi __fixtfti __fixunstfdi __fixunstfsi __fixunstfti __floatditf __floatsitf",
     "__floattitf __floatunditf __floatunsitf __floatuntitf __getf2 __gttf2 __letf2 __lttf2",
     "__multc3 __multf3 __negtf2 __netf2 __powitf2 __subtf3 __trunctfdf2 __trunctfsf2",
     "__trunctfxf2 __unordtf2"]),
   ("GCC_4.7.0",
    ["__clrsbdi2 __clrsbti2"]),
   ("GCC_4.8.0",
    ["__cpu_indicator_init __cpu_model"]),
   ("GCC_7.0.0",
    ["__divmodti4"]),
   ("GCC_12.0.0",
    ["__divhc3 __eqhf2 __extendhfdf2 __extendhfsf2 __extendhftf2 __extendhfxf2 __fixhfti",
     "__fixunshfti __floattihf __floatuntihf __mulhc3 __nehf2 __truncdfhf2 __truncsfhf2",
     "__trunctfhf2 __truncxfhf2"]),
   ("GCC_13.0.0",
    ["__extendbfsf2 __floattibf __floatuntibf __truncdfbf2 __trunchfbf2 __truncsfbf2",
     "__trunctfbf2 __truncxfbf2"]),
   ("GCC_14.0.0",
    ["__divmodbitint4 __fixdfbitint __fixsfbitint __fixtfbitint __fixxfbitint __floatbitintbf",
     "__floatbitintdf __floatbitinthf __floatbitintsf __floatbitinttf __floatbitintxf",
     "__gcc_nested_func_ptr_created __gcc_nested_func_ptr_deleted __hardcfr_check __mulbitint3",
     "__strub_enter __strub_leave __strub_update"]),
   ("GLIBC_2.2.5",
    ["_Exit _IO_2_1_stderr_ _IO_2_1_stdin_ _IO_2_1_stdout_ _IO_adjust_column _IO_adjust_wcolumn",
     "_IO_default_doallocate _IO_default_finish _IO_default_pbackfail _IO_default_uflow",
     "_IO_default_xsgetn _IO_default_xsputn _IO_do_write _IO_doallocbuf _IO_fclose _IO_fdopen",
     "_IO_feof _IO_ferror _IO_fflush _IO_fgetpos _IO_fgetpos64 _IO_fgets _IO_file_attach",
     "_IO_file_close _IO_file_close_it _IO_file_doallocate _IO_file_finish _IO_file_fopen",
     "_IO_file_init _IO_file_jumps _IO_file_open _IO_file_overflow _IO_file_read _IO_file_seek",
     "_IO_file_seekoff _IO_file_setbuf _IO_file_stat _IO_file_sync _IO_file_underflow",
     "_IO_file_write _IO_file_xsputn _IO_flockfile _IO_flush_all _IO_flush_all_linebuffered",
     "_IO_fopen _IO_fprintf _IO_fputs _IO_fread _IO_free_backup_area _IO_free_wbackup_area",
     "_IO_fsetpos _IO_fsetpos64 _IO_ftell _IO_ftrylockfile _IO_funlockfile _IO_fwrite _IO_getc",
     "_IO_getline _IO_getline_info _IO_gets _IO_init _IO_init_marker _IO_init_wmarker",
     "_IO_iter_begin _IO_iter_end _IO_iter_file _IO_iter_next _IO_least_wmarker _IO_link_in",
     "_IO_list_all _IO_list_lock _IO_list_resetlock _IO_list_unlock _IO_marker_delta",
     "_IO_marker_difference _IO_padn _IO_peekc_locked _IO_popen _IO_printf _IO_proc_close",
     "_IO_proc_open _IO_putc _IO_puts _IO_remove_marker _IO_seekmark _IO_seekoff _IO_seekpos",
     "_IO_seekwmark _IO_setb _IO_setbuffer _IO_setvbuf _IO_sgetn _IO_sprintf _IO_sputbackc",
     "_IO_sputbackwc _IO_sscanf _IO_str_init_readonly _IO_str_init_static _IO_str_overflow",
     "_IO_str_pbackfail _IO_str_seekoff _IO_str_underflow _IO_sungetc _IO_sungetwc",
     "_IO_switch_to_get_mode _IO_switch_to_main_wget_area _IO_switch_to_wbackup_area",
     "_IO_switch_to_wget_mode _IO_un_link _IO_ungetc _IO_unsave_markers _IO_unsave_wmarkers",
     "_IO_vfprintf _IO_vfscanf _IO_vsprintf _IO_wdefault_doallocate _IO_wdefault_finish",
     "_IO_wdefault_pbackfail _IO_wdefault_uflow _IO_wdefault_xsgetn _IO_wdefault_xsputn",
     "_IO_wdo_write _IO_wdoallocbuf _IO_wfile_jumps _IO_wfile_overflow _IO_wfile_seekoff",
     "_IO_wfile_sync _IO_wfile_underflow _IO_wfile_xsputn _IO_wmarker_delta _IO_wsetb __adjtimex",
     "__after_morecore_hook __arch_prctl __argz_count __argz_next __argz_stringify __asprintf",
     "__assert __assert_fail __assert_perror_fail __backtrace __backtrace_symbols",
     "__backtrace_symbols_fd __bsd_getpgrp __bzero __check_rhosts_file __clone __close",
     "__cmsg_nxthdr __connect __ctype32_b __ctype32_tolower __ctype32_toupper __ctype_b",
     "__ctype_get_mb_cur_max __ctype_tolower __ctype_toupper __curbrk __cxa_atexit",
     "__cxa_finalize __cyg_profile_func_enter __cyg_profile_func_exit __daylight __dcgettext",
     "__default_morecore __dgettext __dn_comp __dn_expand __dn_skipname __dup2 __duplocale",
     "__endmntent __environ __errno_location __fbufsize __fcntl __ffs __finite __finitef",
     "__finitel __flbf __fork __fpending __fpu_control __fpurge __freadable __freading",
     "__free_hook __freelocale __fsetlocking __fwritable __fwriting __fxstat __fxstat64",
     "__getdelim __getmntent_r __getpagesize __getpgid __getpid __gettimeofday __gmtime_r",
     "__h_errno_location __isalnum_l __isalpha_l __isascii_l __isblank_l __iscntrl_l __isdigit_l",
     "__isgraph_l __isinf __isinff __isinfl __islower_l __isnan __isnanf __isnanl __isprint_l",
     "__ispunct_l __isspace_l __isupper_l __iswalnum_l __iswalpha_l __iswblank_l __iswcntrl_l",
     "__iswctype __iswctype_l __iswdigit_l __iswgraph_l __iswlower_l __iswprint_l __iswpunct_l",
     "__iswspace_l __iswupper_l __iswxdigit_l __isxdigit_l __ivaliduser",
     "__key_decryptsession_pk_LOCAL __key_encryptsession_pk_LOCAL __key_gendes_LOCAL",
     "__libc_allocate_rtsig __libc_calloc __libc_current_sigrtmax __libc_current_sigrtmin",
     "__libc_free __libc_freeres __libc_init_first __libc_mallinfo __libc_malloc __libc_mallopt",
     "__libc_memalign __libc_pvalloc __libc_realloc __libc_sa_len __libc_stack_end",
     "__libc_start_main __libc_valloc __lseek __lxstat __lxstat64 __malloc_hook",
     "__malloc_initialize_hook __mbrlen __mbrtowc __memalign_hook __mempcpy __mempcpy_small",
     "__monstartup __morecore __newlocale __nl_langinfo_l __nss_configure_lookup",
     "__nss_database_lookup __nss_group_lookup __nss_hostname_digits_dots __nss_hosts_lookup",
     "__nss_next __nss_passwd_lookup __open __open64 __overflow __pipe __poll __pread64",
     "__printf_fp __profile_frequency __progname __progname_full __pthread_getspecific",
     "__pthread_key_create __pthread_mutex_destroy __pthread_mutex_init __pthread_mutex_lock",
     "__pthread_mutex_trylock __pthread_mutex_unlock __pthread_mutexattr_destroy",
     "__pthread_mutexattr_init __pthread_mutexattr_settype __pthread_once",
     "__pthread_rwlock_destroy __pthread_rwlock_init __pthread_rwlock_rdlock",
     "__pthread_rwlock_tryrdlock __pthread_rwlock_trywrlock __pthread_rwlock_unlock",
     "__pthread_rwlock_wrlock __pthread_setspecific __pwrite64 __rawmemchr __rcmd_errstr __read",
     "__realloc_hook __res_dnok __res_hnok __res_init __res_mailok __res_mkquery __res_nclose",
     "__res_ninit __res_nmkquery __res_nquery __res_nquerydomain __res_nsearch __res_nsend",
     "__res_ownok __res_query __res_querydomain __res_randomid __res_search __res_send",
     "__res_state __rpc_thread_createerr __rpc_thread_svc_fdset __rpc_thread_svc_max_pollfd",
     "__rpc_thread_svc_pollfd __sbrk __sched_get_priority_max __sched_get_priority_min",
     "__sched_getparam __sched_getscheduler __sched_setscheduler __sched_yield __secure_getenv",
     "__select __send __setmntent __setpgid __sigaction __sigaddset __sigdelset __sigismember",
     "__signbit __signbitf __signbitl __sigpause __sigsetjmp __sigsuspend __statfs __stpcpy",
     "__stpcpy_small __stpncpy __strcasecmp __strcasecmp_l __strcasestr __strcoll_l",
     "__strcpy_small __strcspn_c1 __strcspn_c2 __strcspn_c3 __strdup __strerror_r __strfmon_l",
     "__strncasecmp_l __strndup __strpbrk_c2 __strpbrk_c3 __strsep_1c __strsep_2c __strsep_3c",
     "__strsep_g __strspn_c1 __strspn_c2 __strspn_c3 __strtod_internal __strtod_l",
     "__strtof_internal __strtof_l __strtok_r __strtok_r_1c __strtol_internal __strtol_l",
     "__strtold_internal __strtold_l __strtoll_internal __strtoll_l __strtoul_internal",
     "__strtoul_l __strtoull_internal __strtoull_l __strverscmp __strxfrm_l __sysconf __sysctl",
     "__sysv_signal __timezone __toascii_l __tolower_l __toupper_l __towctrans __towctrans_l",
     "__towlower_l __towupper_l __tzname __uflow __underflow __vfork __vfscanf __vsnprintf",
     "__vsscanf __wait __waitpid __wcscasecmp_l __wcscoll_l __wcsncasecmp_l __wcstod_internal",
     "__wcstod_l __wcstof_internal __wcstof_l __wcstol_internal __wcstol_l __wcstold_internal",
     "__wcstold_l __wcstoll_internal __wcstoll_l __wcstoul_internal __wcstoul_l",
     "__wcstoull_internal __wcstoull_l __wcsxfrm_l __wctrans_l __wctype_l __woverflow __write",
     "__wuflow __wunderflow __xmknod __xpg_basename __xpg_sigpause __xstat __xstat64",
     "_authenticate _dl_mcount _dl_mcount_wrapper _dl_mcount_wrapper_check _environ _exit",
     "_flushlbf _libc_intl_domainname _longjmp _mcleanup _mcount _nl_default_dirname",
     "_nl_domain_bindings _nl_msg_cat_cntr _null_auth _obstack _obstack_allocated_p",
     "_obstack_begin _obstack_begin_1 _obstack_free _obstack_memory_used _obstack_newchunk",
     "_pthread_cleanup_pop _pthread_cleanup_pop_restore _pthread_cleanup_push",
     "_pthread_cleanup_push_defer _r_debug _res _res_hconf _rpc_dtablesize _seterr_reply _setjmp",
     "_sys_errlist _sys_nerr _sys_siglist _tolower _toupper a64l abort abs accept access acct",
     "addmntent addseverity adjtime adjtimex advance aio_cancel aio_cancel64 aio_error",
     "aio_error64 aio_fsync aio_fsync64 aio_init aio_read aio_read64 aio_return aio_return64",
     "aio_suspend aio_suspend64 aio_write aio_write64 alarm alphasort alphasort64 arch_prctl",
     "argp_err_exit_status argp_error argp_failure argp_help argp_parse argp_program_bug_address",
     "argp_program_version argp_program_version_hook argp_state_help argp_usage argz_add",
     "argz_add_sep argz_append argz_count argz_create argz_create_sep argz_delete argz_extract",
     "argz_insert argz_next argz_replace argz_stringify asctime asctime_r asprintf atof atoi",
     "atol atoll authdes_create authdes_getucred authdes_pk_create authnone_create",
     "authunix_create authunix_create_default backtrace backtrace_symbols backtrace_symbols_fd",
     "basename bcmp bcopy bdflush bind bind_textdomain_codeset bindresvport bindtextdomain brk",
     "bsd_signal bsearch btowc bzero calloc callrpc canonicalize_file_name capget capset",
     "catclose catgets catopen cbc_crypt cfgetispeed cfgetospeed cfmakeraw cfree cfsetispeed",
     "cfsetospeed cfsetspeed chdir chflags chmod chown chroot clearenv clearerr",
     "clearerr_unlocked clnt_broadcast clnt_create clnt_pcreateerror clnt_perrno clnt_perror",
     "clnt_spcreateerror clnt_sperrno clnt_sperror clntraw_create clnttcp_create",
     "clntudp_bufcreate clntudp_create clntunix_create clock clock_getcpuclockid clock_getres",
     "clock_gettime clock_nanosleep clock_settime clone close closedir closelog confstr connect",
     "copysign copysignf copysignl creat creat64 create_module ctermid ctime ctime_r cuserid",
     "daemon daylight dcgettext dcngettext delete_module des_setparity dgettext difftime dirfd",
     "dirname div dl_iterate_phdr dladdr dlclose dlerror dlopen dlsym dlvsym dngettext dprintf",
     "drand48 drand48_r dup dup2 dysize ecb_crypt ecvt ecvt_r endaliasent endfsent endgrent",
     "endhostent endmntent endnetent endnetgrent endprotoent endpwent endrpcent endservent",
     "endspent endttyent endusershell endutent endutxent environ envz_add envz_entry envz_get",
     "envz_merge envz_remove envz_strip erand48 erand48_r err error error_at_line",
     "error_message_count error_one_per_line error_print_progname errx ether_aton ether_aton_r",
     "ether_hostton ether_line ether_ntoa ether_ntoa_r ether_ntohost euidaccess execl execle",
     "execlp execv execve execvp exit fattach fchdir fchflags fchmod fchown fclose fcloseall",
     "fcntl fcvt fcvt_r fdatasync fdetach fdopen feof feof_unlocked ferror ferror_unlocked",
     "fexecve fflush fflush_unlocked ffs ffsl ffsll fgetc fgetc_unlocked fgetgrent fgetgrent_r",
     "fgetpos fgetpos64 fgetpwent fgetpwent_r fgets fgets_unlocked fgetspent fgetspent_r fgetwc",
     "fgetwc_unlocked fgetws fgetws_unlocked fileno fileno_unlocked finite finitef finitel flock",
     "flockfile fmemopen fmtmsg fnmatch fopen fopen64 fopencookie fork forkpty fpathconf fprintf",
     "fputc fputc_unlocked fputs fputs_unlocked fputwc fputwc_unlocked fputws fputws_unlocked",
     "fread fread_unlocked free freeaddrinfo freopen freopen64 frexp frexpf frexpl fscanf fseek",
     "fseeko fseeko64 fsetpos fsetpos64 fstatfs fstatfs64 fstatvfs fstatvfs64 fsync ftell ftello",
     "ftello64 ftime ftok ftruncate ftruncate64 ftrylockfile fts_children fts_close fts_open",
     "fts_read fts_set ftw ftw64 funlockfile fwide fwprintf fwrite fwrite_unlocked fwscanf",
     "gai_cancel gai_error gai_strerror gai_suspend gcvt get_avphys_pages get_current_dir_name",
     "get_kernel_syms get_myaddress get_nprocs get_nprocs_conf get_phys_pages getaddrinfo",
     "getaddrinfo_a getaliasbyname getaliasbyname_r getaliasent getaliasent_r getc getc_unlocked",
     "getchar getchar_unlocked getcontext getcwd getdate getdate_err getdate_r getdelim",
     "getdirentries getdirentries64 getdomainname getdtablesize getegid getenv geteuid getfsent",
     "getfsfile getfsspec getgid getgrent getgrent_r getgrgid getgrgid_r getgrnam getgrnam_r",
     "getgrouplist getgroups gethostbyaddr gethostbyaddr_r gethostbyname gethostbyname2",
     "gethostbyname2_r gethostbyname_r gethostent gethostent_r gethostid gethostname getitimer",
     "getline getloadavg getlogin getlogin_r getmntent getmntent_r getmsg getnameinfo",
     "getnetbyaddr getnetbyaddr_r getnetbyname getnetbyname_r getnetent getnetent_r getnetgrent",
     "getnetgrent_r getnetname getopt getopt_long getopt_long_only getpagesize getpass",
     "getpeername getpgid getpgrp getpid getpmsg getppid getpriority getprotobyname",
     "getprotobyname_r getprotobynumber getprotobynumber_r getprotoent getprotoent_r getpt",
     "getpublickey getpw getpwent getpwent_r getpwnam getpwnam_r getpwuid getpwuid_r getresgid",
     "getresuid getrlimit getrlimit64 getrpcbyname getrpcbyname_r getrpcbynumber",
     "getrpcbynumber_r getrpcent getrpcent_r getrpcport getrusage gets getsecretkey",
     "getservbyname getservbyname_r getservbyport getservbyport_r getservent getservent_r getsid",
     "getsockname getsockopt getspent getspent_r getspnam getspnam_r getsubopt gettext",
     "gettimeofday getttyent getttynam getuid getusershell getutent getutent_r getutid getutid_r",
     "getutline getutline_r getutmp getutmpx getutxent getutxid getutxline getw getwc",
     "getwc_unlocked getwchar getwchar_unlocked getwd glob glob64 glob_pattern_p globfree",
     "globfree64 gmtime gmtime_r gnu_get_libc_release gnu_get_libc_version grantpt group_member",
     "gsignal gtty h_errlist h_nerr hasmntopt hcreate hcreate_r hdestroy hdestroy_r herror",
     "host2netname hsearch hsearch_r hstrerror htonl htons iconv iconv_close iconv_open",
     "if_freenameindex if_indextoname if_nameindex if_nametoindex imaxabs imaxdiv in6addr_any",
     "in6addr_loopback index inet_addr inet_aton inet_lnaof inet_makeaddr inet_netof",
     "inet_network inet_nsap_addr inet_nsap_ntoa inet_ntoa inet_ntop inet_pton init_module",
     "initgroups initstate initstate_r innetgr insque ioctl ioperm iopl iruserok iruserok_af",
     "isalnum isalpha isascii isastream isatty isblank iscntrl isdigit isfdtype isgraph isinf",
     "isinff isinfl islower isnan isnanf isnanl isprint ispunct isspace isupper iswalnum",
     "iswalpha iswblank iswcntrl iswctype iswdigit iswgraph iswlower iswprint iswpunct iswspace",
     "iswupper iswxdigit isxdigit jrand48 jrand48_r key_decryptsession key_decryptsession_pk",
     "key_encryptsession key_encryptsession_pk key_gendes key_get_conv key_secretkey_is_set",
     "key_setnet key_setsecret kill killpg klogctl l64a labs lchown lckpwdf lcong48 lcong48_r",
     "ldexp ldexpf ldexpl ldiv lfind link lio_listio lio_listio64 listen llabs lldiv llseek loc1",
     "loc2 localeconv localtime localtime_r lockf lockf64 locs login login_tty logout logwtmp",
     "longjmp lrand48 lrand48_r lsearch lseek lseek64 madvise makecontext mallinfo malloc",
     "malloc_stats malloc_trim malloc_usable_size mallopt mallwatch mblen mbrlen mbrtowc mbsinit",
     "mbsnrtowcs mbsrtowcs mbstowcs mbtowc mcheck mcheck_check_all mcheck_pedantic mcount",
     "memalign memccpy memchr memcmp memcpy memfrob memmem memmove mempcpy memrchr memset",
     "mincore mkdir mkdtemp mkfifo mkstemp mkstemp64 mktemp mktime mlock mlockall mmap mmap64",
     "modf modff modfl modify_ldt moncontrol monstartup mount mprobe mprotect mrand48 mrand48_r",
     "mremap msgctl msgget msgrcv msgsnd msync mtrace munlock munlockall munmap muntrace",
     "nanosleep netname2host netname2user nfsservctl nftw nftw64 ngettext nice nl_langinfo",
     "nrand48 nrand48_r ntohl ntohs ntp_adjtime ntp_gettime obstack_alloc_failed_handler",
     "obstack_exit_failure obstack_free obstack_printf obstack_vprintf on_exit open open64",
     "open_memstream opendir openlog openpty optarg opterr optind optopt parse_printf_format",
     "passwd2des pathconf pause pclose perror personality pipe pivot_root pmap_getmaps",
     "pmap_getport pmap_rmtcall pmap_set pmap_unset poll popen posix_fadvise posix_fadvise64",
     "posix_fallocate posix_fallocate64 posix_madvise posix_memalign posix_openpt posix_spawn",
     "posix_spawn_file_actions_addclose posix_spawn_file_actions_adddup2",
     "posix_spawn_file_actions_addopen posix_spawn_file_actions_destroy",
     "posix_spawn_file_actions_init posix_spawnattr_destroy posix_spawnattr_getflags",
     "posix_spawnattr_getpgroup posix_spawnattr_getschedparam posix_spawnattr_getschedpolicy",
     "posix_spawnattr_getsigdefault posix_spawnattr_getsigmask posix_spawnattr_init",
     "posix_spawnattr_setflags posix_spawnattr_setpgroup posix_spawnattr_setschedparam",
     "posix_spawnattr_setschedpolicy posix_spawnattr_setsigdefault posix_spawnattr_setsigmask",
     "posix_spawnp prctl pread pread64 printf printf_size printf_size_info profil",
     "program_invocation_name program_invocation_short_name pselect psignal pthread_atfork",
     "pthread_attr_destroy pthread_attr_getdetachstate pthread_attr_getguardsize",
     "pthread_attr_getinheritsched pthread_attr_getschedparam pthread_attr_getschedpolicy",
     "pthread_attr_getscope pthread_attr_getstack pthread_attr_getstackaddr",
     "pthread_attr_getstacksize pthread_attr_init pthread_attr_setdetachstate",
     "pthread_attr_setguardsize pthread_attr_setinheritsched pthread_attr_setschedparam",
     "pthread_attr_setschedpolicy pthread_attr_setscope pthread_attr_setstack",
     "pthread_attr_setstackaddr pthread_attr_setstacksize pthread_barrier_destroy",
     "pthread_barrier_init pthread_barrier_wait pthread_barrierattr_destroy",
     "pthread_barrierattr_init pthread_barrierattr_setpshared pthread_cancel",
     "pthread_cond_broadcast pthread_cond_destroy pthread_cond_init pthread_cond_signal",
     "pthread_cond_timedwait pthread_cond_wait pthread_condattr_destroy",
     "pthread_condattr_getpshared pthread_condattr_init pthread_condattr_setpshared",
     "pthread_create pthread_detach pthread_equal pthread_exit pthread_getattr_np",
     "pthread_getconcurrency pthread_getcpuclockid pthread_getschedparam pthread_getspecific",
     "pthread_join pthread_key_create pthread_key_delete pthread_kill",
     "pthread_kill_other_threads_np pthread_mutex_destroy pthread_mutex_init pthread_mutex_lock",
     "pthread_mutex_timedlock pthread_mutex_trylock pthread_mutex_unlock",
     "pthread_mutexattr_destroy pthread_mutexattr_getkind_np pthread_mutexattr_getpshared",
     "pthread_mutexattr_gettype pthread_mutexattr_init pthread_mutexattr_setkind_np",
     "pthread_mutexattr_setpshared pthread_mutexattr_settype pthread_once pthread_rwlock_destroy",
     "pthread_rwlock_init pthread_rwlock_rdlock pthread_rwlock_timedrdlock",
     "pthread_rwlock_timedwrlock pthread_rwlock_tryrdlock pthread_rwlock_trywrlock",
     "pthread_rwlock_unlock pthread_rwlock_wrlock pthread_rwlockattr_destroy",
     "pthread_rwlockattr_getkind_np pthread_rwlockattr_getpshared pthread_rwlockattr_init",
     "pthread_rwlockattr_setkind_np pthread_rwlockattr_setpshared pthread_self",
     "pthread_setcancelstate pthread_setcanceltype pthread_setconcurrency pthread_setschedparam",
     "pthread_setspecific pthread_sigmask pthread_spin_destroy pthread_spin_init",
     "pthread_spin_lock pthread_spin_trylock pthread_spin_unlock pthread_testcancel",
     "pthread_yield ptrace ptsname ptsname_r putc putc_unlocked putchar putchar_unlocked putenv",
     "putgrent putmsg putpmsg putpwent puts putspent pututline pututxline putw putwc",
     "putwc_unlocked putwchar putwchar_unlocked pvalloc pwrite pwrite64 qecvt qecvt_r qfcvt",
     "qfcvt_r qgcvt qsort query_module quotactl raise rand rand_r random random_r rawmemchr rcmd",
     "rcmd_af re_comp re_compile_fastmap re_compile_pattern re_exec re_match re_match_2",
     "re_max_failures re_search re_search_2 re_set_registers re_set_syntax re_syntax_options",
     "read readdir readdir64 readdir64_r readdir_r readlink readv realloc realpath reboot recv",
     "recvfrom recvmsg regcomp regerror regexec regfree register_printf_function registerrpc",
     "remove remque rename revoke rewind rewinddir rexec rexec_af rexecoptions rindex rmdir",
     "rpc_createerr rpmatch rresvport rresvport_af rtime ruserok ruserok_af ruserpass sbrk",
     "scalbn scalbnf scalbnl scandir scandir64 scanf sched_get_priority_max",
     "sched_get_priority_min sched_getparam sched_getscheduler sched_rr_get_interval",
     "sched_setparam sched_setscheduler sched_yield seed48 seed48_r seekdir select sem_close",
     "sem_destroy sem_getvalue sem_init sem_open sem_post sem_timedwait sem_trywait sem_unlink",
     "sem_wait semctl semget semop send sendfile sendmsg sendto setaliasent setbuf setbuffer",
     "setcontext setdomainname setegid setenv seteuid setfsent setfsgid setfsuid setgid setgrent",
     "setgroups sethostent sethostid sethostname setitimer setjmp setlinebuf setlocale setlogin",
     "setlogmask setmntent setnetent setnetgrent setpgid setpgrp setpriority setprotoent",
     "setpwent setregid setresgid setresuid setreuid setrlimit setrlimit64 setrpcent setservent",
     "setsid setsockopt setspent setstate setstate_r settimeofday setttyent setuid setusershell",
     "setutent setutxent setvbuf sgetspent sgetspent_r shm_open shm_unlink shmat shmctl shmdt",
     "shmget shutdown sigaction sigaddset sigaltstack sigandset sigblock sigdelset sigemptyset",
     "sigfillset siggetmask sighold sigignore siginterrupt sigisemptyset sigismember siglongjmp",
     "signal sigorset sigpause sigpending sigprocmask sigqueue sigrelse sigreturn sigset",
     "sigsetmask sigstack sigsuspend sigtimedwait sigvec sigwait sigwaitinfo sleep snprintf",
     "sockatmark socket socketpair sprintf sprofil srand srand48 srand48_r srandom srandom_r",
     "sscanf ssignal sstk statfs statfs64 statvfs statvfs64 stderr stdin stdout step stime",
     "stpcpy stpncpy strcasecmp strcasestr strcat strchr strchrnul strcmp strcoll strcpy strcspn",
     "strdup strerror strerror_r strfmon strfry strftime strlen strncasecmp strncat strncmp",
     "strncpy strndup strnlen strpbrk strptime strrchr strsep strsignal strspn strstr strtod",
     "strtof strtoimax strtok strtok_r strtol strtold strtoll strtoq strtoul strtoull strtoumax",
     "strtouq strverscmp strxfrm stty svc_exit svc_fdset svc_getreq svc_getreq_common",
     "svc_getreq_poll svc_getreqset svc_max_pollfd svc_pollfd svc_register svc_run svc_sendreply",
     "svc_unregister svcauthdes_stats svcerr_auth svcerr_decode svcerr_noproc svcerr_noprog",
     "svcerr_progvers svcerr_systemerr svcerr_weakauth svcfd_create svcraw_create svctcp_create",
     "svcudp_bufcreate svcudp_create svcudp_enablecache svcunix_create svcunixfd_create swab",
     "swapcontext swapoff swapon swprintf swscanf symlink sync sys_errlist sys_nerr",
     "sys_sigabbrev sys_siglist syscall sysconf sysctl sysinfo syslog system sysv_signal tcdrain",
     "tcflow tcflush tcgetattr tcgetpgrp tcgetsid tcsendbreak tcsetattr tcsetpgrp tdelete",
     "tdestroy telldir tempnam textdomain tfind time timegm timelocal timer_create timer_delete",
     "timer_getoverrun timer_gettime timer_settime times timezone tmpfile tmpfile64 tmpnam",
     "tmpnam_r toascii tolower toupper towctrans towlower towupper tr_break truncate truncate64",
     "tsearch ttyname ttyname_r ttyslot twalk tzname tzset ualarm ulckpwdf ulimit umask umount",
     "umount2 uname ungetc ungetwc unlink unlockpt unsetenv updwtmp updwtmpx uselib user2netname",
     "usleep ustat utime utimes utmpname utmpxname valloc vasprintf vdprintf verr verrx",
     "versionsort versionsort64 vfork vfprintf vfscanf vfwprintf vfwscanf vhangup vlimit vprintf",
     "vscanf vsnprintf vsprintf vsscanf vswprintf vswscanf vsyslog vtimes vwarn vwarnx vwprintf",
     "vwscanf wait wait3 wait4 waitid waitpid warn warnx wcpcpy wcpncpy wcrtomb wcscasecmp",
     "wcscat wcschr wcschrnul wcscmp wcscoll wcscpy wcscspn wcsdup wcsftime wcslen wcsncasecmp",
     "wcsncat wcsncmp wcsncpy wcsnlen wcsnrtombs wcspbrk wcsrchr wcsrtombs wcsspn wcsstr wcstod",
     "wcstof wcstoimax wcstok wcstol wcstold wcstoll wcstombs wcstoq wcstoul wcstoull wcstoumax",
     "wcstouq wcswcs wcswidth wcsxfrm wctob wctomb wctrans wctype wcwidth wmemchr wmemcmp",
     "wmemcpy wmemmove wmempcpy wmemset wordexp wordfree wprintf write writev wscanf xdecrypt",
     "xdr_accepted_reply xdr_array xdr_authdes_cred xdr_authdes_verf xdr_authunix_parms xdr_bool",
     "xdr_bytes xdr_callhdr xdr_callmsg xdr_char xdr_cryptkeyarg xdr_cryptkeyarg2",
     "xdr_cryptkeyres xdr_des_block xdr_double xdr_enum xdr_float xdr_free xdr_getcredres",
     "xdr_hyper xdr_int xdr_int16_t xdr_int32_t xdr_int64_t xdr_int8_t xdr_key_netstarg",
     "xdr_key_netstres xdr_keybuf xdr_keystatus xdr_long xdr_longlong_t xdr_netnamestr",
     "xdr_netobj xdr_opaque xdr_opaque_auth xdr_pmap xdr_pmaplist xdr_pointer xdr_reference",
     "xdr_rejected_reply xdr_replymsg xdr_rmtcall_args xdr_rmtcallres xdr_short xdr_sizeof",
     "xdr_string xdr_u_char xdr_u_hyper xdr_u_int xdr_u_long xdr_u_longlong_t xdr_u_short",
     "xdr_uint16_t xdr_uint32_t xdr_uint64_t xdr_uint8_t xdr_union xdr_unixcred xdr_vector",
     "xdr_void xdr_wrapstring xdrmem_create xdrrec_create xdrrec_endofrecord xdrrec_eof",
     "xdrrec_skiprecord xdrstdio_create xencrypt xprt_register xprt_unregister"]),
   ("GLIBC_2.2.6",
    ["__nanosleep"]),
   ("GLIBC_2.3",
    ["__ctype_b_loc __ctype_tolower_loc __ctype_toupper_loc __isctype __strftime_l",
     "__tls_get_addr __uselocale __wcsftime_l _sys_errlist _sys_nerr duplocale fgetxattr",
     "flistxattr freeifaddrs freelocale fremovexattr fsetxattr futimes getifaddrs getxattr",
     "isalnum_l isalpha_l isblank_l iscntrl_l isctype isdigit_l isgraph_l islower_l isprint_l",
     "ispunct_l isspace_l isupper_l iswalnum_l iswalpha_l iswblank_l iswcntrl_l iswctype_l",
     "iswdigit_l iswgraph_l iswlower_l iswprint_l iswpunct_l iswspace_l iswupper_l iswxdigit_l",
     "isxdigit_l lgetxattr listxattr llistxattr lremovexattr lsetxattr lutimes newlocale",
     "nl_langinfo_l readahead realpath removexattr sendfile64 setxattr strcasecmp_l strcoll_l",
     "strfmon_l strftime_l strncasecmp_l strtod_l strtof_l strtol_l strtold_l strtoul_l",
     "strxfrm_l sys_errlist sys_nerr tolower_l toupper_l towctrans_l towlower_l towupper_l",
     "uselocale wcscasecmp_l wcscoll_l wcsftime_l wcsncasecmp_l wcstod_l wcstof_l wcstol_l",
     "wcstold_l wcstoll_l wcstoul_l wcstoull_l wcsxfrm_l wctrans_l wctype_l"]),
   ("GLIBC_2.3.2",
    ["__register_atfork epoll_create epoll_ctl epoll_wait lchmod pthread_cond_broadcast",
     "pthread_cond_destroy pthread_cond_init pthread_cond_signal pthread_cond_timedwait",
     "pthread_cond_wait strptime_l"]),
   ("GLIBC_2.3.3",
    ["__pthread_cleanup_routine __pthread_register_cancel __pthread_register_cancel_defer",
     "__pthread_unregister_cancel __pthread_unregister_cancel_restore __pthread_unwind_next",
     "_sys_siglist dladdr1 dlinfo gnu_dev_major gnu_dev_makedev gnu_dev_minor inet6_option_alloc",
     "inet6_option_append inet6_option_find inet6_option_init inet6_option_next",
     "inet6_option_space nftw nftw64 pthread_attr_getaffinity_np pthread_attr_setaffinity_np",
     "pthread_barrierattr_getpshared pthread_condattr_getclock pthread_condattr_setclock",
     "pthread_getaffinity_np pthread_setaffinity_np pthread_timedjoin_np pthread_tryjoin_np",
     "remap_file_pages sched_getaffinity sched_setaffinity semtimedop strtoll_l strtoull_l",
     "sys_sigabbrev sys_siglist timer_create timer_delete timer_getoverrun timer_gettime",
     "timer_settime"]),
   ("GLIBC_2.3.4",
    ["__chk_fail __fprintf_chk __gets_chk __memcpy_chk __memmove_chk __mempcpy_chk __memset_chk",
     "__printf_chk __snprintf_chk __sprintf_chk __stpcpy_chk __strcat_chk __strcpy_chk",
     "__strncat_chk __strncpy_chk __vfprintf_chk __vprintf_chk __vsnprintf_chk __vsprintf_chk",
     "__xpg_strerror_r dlmopen getipv4sourcefilter getsourcefilter mq_close mq_getattr mq_notify",
     "mq_open mq_receive mq_send mq_setattr mq_timedreceive mq_timedsend mq_unlink",
     "pthread_attr_getaffinity_np pthread_attr_setaffinity_np pthread_getaffinity_np",
     "pthread_setaffinity_np pthread_setschedprio regexec sched_getaffinity sched_setaffinity",
     "setipv4sourcefilter setsourcefilter xdr_quad_t xdr_u_quad_t"]),
   ("GLIBC_2.4",
    ["__confstr_chk __fgets_chk __fgets_unlocked_chk __fgetws_chk __fgetws_unlocked_chk",
     "__fwprintf_chk __fxstatat __fxstatat64 __getcwd_chk __getdomainname_chk __getgroups_chk",
     "__gethostname_chk __getlogin_r_chk __getwd_chk __mbsnrtowcs_chk __mbsrtowcs_chk",
     "__mbstowcs_chk __pread64_chk __pread_chk __ptsname_r_chk __read_chk __readlink_chk",
     "__realpath_chk __recv_chk __recvfrom_chk __stack_chk_fail __stpncpy_chk __swprintf_chk",
     "__syslog_chk __ttyname_r_chk __vfwprintf_chk __vswprintf_chk __vsyslog_chk __vwprintf_chk",
     "__wcpcpy_chk __wcpncpy_chk __wcrtomb_chk __wcscat_chk __wcscpy_chk __wcsncat_chk",
     "__wcsncpy_chk __wcsnrtombs_chk __wcsrtombs_chk __wcstombs_chk __wctomb_chk __wmemcpy_chk",
     "__wmemmove_chk __wmempcpy_chk __wmemset_chk __wprintf_chk __xmknodat _sys_errlist",
     "_sys_nerr eaccess faccessat fchmodat fchownat fdopendir futimesat inotify_add_watch",
     "inotify_init inotify_rm_watch linkat lio_listio lio_listio64 mkdirat mkfifoat",
     "open_wmemstream openat openat64 ppoll pthread_mutex_consistent_np",
     "pthread_mutex_getprioceiling pthread_mutex_setprioceiling pthread_mutexattr_getprioceiling",
     "pthread_mutexattr_getprotocol pthread_mutexattr_getrobust_np",
     "pthread_mutexattr_setprioceiling pthread_mutexattr_setprotocol",
     "pthread_mutexattr_setrobust_np readlinkat renameat symlinkat sys_errlist sys_nerr unlinkat",
     "unshare"]),
   ("GLIBC_2.5",
    ["__readlinkat_chk inet6_opt_append inet6_opt_find inet6_opt_finish inet6_opt_get_val",
     "inet6_opt_init inet6_opt_next inet6_opt_set_val inet6_rth_add inet6_rth_getaddr",
     "inet6_rth_init inet6_rth_reverse inet6_rth_segments inet6_rth_space splice tee vmsplice"]),
   ("GLIBC_2.6",
    ["__sched_cpucount epoll_pwait futimens sched_getcpu strerror_l sync_file_range utimensat"]),
   ("GLIBC_2.7",
    ["__fread_chk __fread_unlocked_chk __isoc99_fscanf __isoc99_fwscanf __isoc99_scanf",
     "__isoc99_sscanf __isoc99_swscanf __isoc99_vfscanf __isoc99_vfwscanf __isoc99_vscanf",
     "__isoc99_vsscanf __isoc99_vswscanf __isoc99_vwscanf __isoc99_wscanf __mq_open_2 __open64_2",
     "__open_2 __openat64_2 __openat_2 __sched_cpualloc __sched_cpufree eventfd eventfd_read",
     "eventfd_write mkostemp mkostemp64 signalfd"]),
   ("GLIBC_2.8",
    ["__asprintf_chk __dprintf_chk __obstack_printf_chk __obstack_vprintf_chk __vasprintf_chk",
     "__vdprintf_chk qsort_r timerfd_create timerfd_gettime timerfd_settime"]),
   ("GLIBC_2.9",
    ["dup3 epoll_create1 inotify_init1 ns_name_compress ns_name_ntop ns_name_pack ns_name_pton",
     "ns_name_skip ns_name_uncompress ns_name_unpack pipe2"]),
   ("GLIBC_2.10",
    ["__cxa_at_quick_exit __posix_getopt accept4 endsgent fallocate fallocate64 fgetsgent",
     "fgetsgent_r getsgent getsgent_r getsgnam getsgnam_r malloc_info preadv preadv64 psiginfo",
     "putsgent pwritev pwritev64 quick_exit register_printf_modifier register_printf_specifier",
     "register_printf_type setsgent sgetsgent sgetsgent_r"]),
   ("GLIBC_2.11",
    ["__longjmp_chk execvpe mkostemps mkostemps64 mkstemps mkstemps64 pthread_sigqueue"]),
   ("GLIBC_2.12",
    ["_sys_errlist _sys_nerr ntp_gettimex pthread_getname_np pthread_mutex_consistent",
     "pthread_mutexattr_getrobust pthread_mutexattr_setrobust pthread_setname_np recvmmsg",
     "sys_errlist sys_nerr"]),
   ("GLIBC_2.13",
    ["__fentry__ fanotify_init fanotify_mark prlimit prlimit64"]),
   ("GLIBC_2.14",
    ["clock_adjtime memcpy name_to_handle_at open_by_handle_at sendmmsg setns syncfs"]),
   ("GLIBC_2.15",
    ["__fdelt_chk __fdelt_warn posix_spawn posix_spawnp process_vm_readv process_vm_writev",
     "scandirat scandirat64"]),
   ("GLIBC_2.16",
    ["__getauxval __poll_chk __ppoll_chk aligned_alloc c16rtomb c32rtomb getauxval mbrtoc16",
     "mbrtoc32 timespec_get"]),
   ("GLIBC_2.17",
    ["clock_getcpuclockid clock_getres clock_gettime clock_nanosleep clock_settime secure_getenv"]),
   ("GLIBC_2.18",
    ["__cxa_thread_atexit_impl pthread_getattr_default_np pthread_setattr_default_np"]),
   ("GLIBC_2.22",
    ["fmemopen"]),
   ("GLIBC_2.23",
    ["fts64_children fts64_close fts64_open fts64_read fts64_set"]),
   ("GLIBC_2.24",
    ["quick_exit"]),
   ("GLIBC_2.25",
    ["__explicit_bzero_chk explicit_bzero getentropy getrandom strfromd strfromf strfroml"]),
   ("GLIBC_2.26",
    ["__isnanf128 __strtof128_internal __wcstof128_internal preadv2 preadv64v2 pwritev2",
     "pwritev64v2 reallocarray strfromf128 strtof128 strtof128_l wcstof128 wcstof128_l"]),
   ("GLIBC_2.27",
    ["copy_file_range glob glob64 memfd_create mlock2 pkey_alloc pkey_free pkey_get",
     "pkey_mprotect pkey_set strfromf32 strfromf32x strfromf64 strfromf64x strtof32 strtof32_l",
     "strtof32x strtof32x_l strtof64 strtof64_l strtof64x strtof64x_l wcstof32 wcstof32_l",
     "wcstof32x wcstof32x_l wcstof64 wcstof64_l wcstof64x wcstof64x_l"]),
   ("GLIBC_2.28",
    ["call_once cnd_broadcast cnd_destroy cnd_init cnd_signal cnd_timedwait cnd_wait fcntl64",
     "mtx_destroy mtx_init mtx_lock mtx_timedlock mtx_trylock mtx_unlock renameat2 statx",
     "thrd_create thrd_current thrd_detach thrd_equal thrd_exit thrd_join thrd_sleep thrd_yield",
     "tss_create tss_delete tss_get tss_set"]),
   ("GLIBC_2.29",
    ["getcpu posix_spawn_file_actions_addchdir_np posix_spawn_file_actions_addfchdir_np"]),
   ("GLIBC_2.30",
    ["getdents64 gettid pthread_cond_clockwait pthread_mutex_clocklock",
     "pthread_rwlock_clockrdlock pthread_rwlock_clockwrlock sem_clockwait tgkill twalk_r"]),
   ("GLIBC_2.31",
    ["pthread_clockjoin_np"]),
   ("GLIBC_2.32",
    ["__libc_single_threaded pthread_attr_getsigmask_np pthread_attr_setaffinity_np",
     "pthread_attr_setsigmask_np pthread_getaffinity_np pthread_getattr_np pthread_sigmask",
     "sigabbrev_np sigdescr_np strerrordesc_np strerrorname_np"]),
   ("GLIBC_2.33",
    ["__x86_get_cpuid_feature_leaf fstat fstat64 fstatat fstatat64 lstat lstat64 mallinfo2 mknod",
     "mknodat stat stat64"]),
   ("GLIBC_2.34",
    ["_Fork __isnanf128 __libc_start_main __mq_open_2 __pthread_cleanup_routine",
     "__pthread_key_create __pthread_register_cancel __pthread_register_cancel_defer",
     "__pthread_unregister_cancel __pthread_unregister_cancel_restore __pthread_unwind_next",
     "__rtld_version_placeholder _pthread_cleanup_pop _pthread_cleanup_push aio_cancel",
     "aio_cancel64 aio_error aio_error64 aio_fsync aio_fsync64 aio_init aio_read aio_read64",
     "aio_return aio_return64 aio_suspend aio_suspend64 aio_write aio_write64 call_once",
     "close_range closefrom cnd_broadcast cnd_destroy cnd_init cnd_signal cnd_timedwait cnd_wait",
     "dladdr dladdr1 dlclose dlerror dlinfo dlmopen dlopen dlsym dlvsym dn_comp dn_expand",
     "dn_skipname execveat forkpty gai_cancel gai_error gai_suspend getaddrinfo_a lio_listio",
     "lio_listio64 login login_tty logout logwtmp mq_close mq_getattr mq_notify mq_open",
     "mq_receive mq_send mq_setattr mq_timedreceive mq_timedsend mq_unlink mtx_destroy mtx_init",
     "mtx_lock mtx_timedlock mtx_trylock mtx_unlock ns_name_compress ns_name_ntop ns_name_pack",
     "ns_name_pton ns_name_skip ns_name_uncompress ns_name_unpack openpty",
     "posix_spawn_file_actions_addclosefrom_np pthread_attr_getaffinity_np",
     "pthread_attr_getguardsize pthread_attr_getstack pthread_attr_getstackaddr",
     "pthread_attr_getstacksize pthread_attr_setguardsize pthread_attr_setstack",
     "pthread_attr_setstackaddr pthread_attr_setstacksize pthread_barrier_destroy",
     "pthread_barrier_init pthread_barrier_wait pthread_barrierattr_destroy",
     "pthread_barrierattr_getpshared pthread_barrierattr_init pthread_barrierattr_setpshared",
     "pthread_cancel pthread_clockjoin_np pthread_cond_clockwait pthread_condattr_getclock",
     "pthread_condattr_getpshared pthread_condattr_setclock pthread_condattr_setpshared",
     "pthread_create pthread_detach pthread_getattr_default_np pthread_getconcurrency",
     "pthread_getcpuclockid pthread_getname_np pthread_getspecific pthread_join",
     "pthread_key_create pthread_key_delete pthread_kill pthread_mutex_clocklock",
     "pthread_mutex_consistent pthread_mutex_getprioceiling pthread_mutex_setprioceiling",
     "pthread_mutex_timedlock pthread_mutex_trylock pthread_mutexattr_destroy",
     "pthread_mutexattr_getprioceiling pthread_mutexattr_getprotocol",
     "pthread_mutexattr_getpshared pthread_mutexattr_getrobust pthread_mutexattr_gettype",
     "pthread_mutexattr_init pthread_mutexattr_setprioceiling pthread_mutexattr_setprotocol",
     "pthread_mutexattr_setpshared pthread_mutexattr_setrobust pthread_mutexattr_settype",
     "pthread_once pthread_rwlock_clockrdlock pthread_rwlock_clockwrlock pthread_rwlock_destroy",
     "pthread_rwlock_init pthread_rwlock_rdlock pthread_rwlock_timedrdlock",
     "pthread_rwlock_timedwrlock pthread_rwlock_tryrdlock pthread_rwlock_trywrlock",
     "pthread_rwlock_unlock pthread_rwlock_wrlock pthread_rwlockattr_destroy",
     "pthread_rwlockattr_getkind_np pthread_rwlockattr_getpshared pthread_rwlockattr_init",
     "pthread_rwlockattr_setkind_np pthread_rwlockattr_setpshared pthread_setaffinity_np",
     "pthread_setattr_default_np pthread_setconcurrency pthread_setname_np pthread_setschedprio",
     "pthread_setspecific pthread_sigqueue pthread_spin_destroy pthread_spin_init",
     "pthread_spin_lock pthread_spin_trylock pthread_spin_unlock pthread_testcancel",
     "pthread_timedjoin_np pthread_tryjoin_np res_dnok res_hnok res_mailok res_mkquery",
     "res_nmkquery res_nquery res_nquerydomain res_nsearch res_nsend res_ownok res_query",
     "res_querydomain res_search res_send sem_clockwait sem_close sem_destroy sem_getvalue",
     "sem_init sem_open sem_post sem_timedwait sem_trywait sem_unlink sem_wait shm_open",
     "shm_unlink thrd_create thrd_detach thrd_exit thrd_join timer_create timer_delete",
     "timer_getoverrun timer_gettime timer_settime timespec_getres tss_create tss_delete tss_get",
     "tss_set"]),
   ("GLIBC_2.35",
    ["__memcmpeq __rseq_flags __rseq_offset __rseq_size _dl_find_object epoll_pwait2",
     "posix_spawn_file_actions_addtcsetpgrp_np"]),
   ("GLIBC_2.36",
    ["arc4random arc4random_buf arc4random_uniform c8rtomb fsconfig fsmount fsopen fspick",
     "mbrtoc8 mount_setattr move_mount open_tree pidfd_getfd pidfd_open pidfd_send_signal",
     "process_madvise process_mrelease"]),
   ("GLIBC_2.38",
    ["__isoc23_fscanf __isoc23_fwscanf __isoc23_scanf __isoc23_sscanf __isoc23_strtoimax",
     "__isoc23_strtol __isoc23_strtol_l __isoc23_strtoll __isoc23_strtoll_l __isoc23_strtoul",
     "__isoc23_strtoul_l __isoc23_strtoull __isoc23_strtoull_l __isoc23_strtoumax",
     "__isoc23_swscanf __isoc23_vfscanf __isoc23_vfwscanf __isoc23_vscanf __isoc23_vsscanf",
     "__isoc23_vswscanf __isoc23_vwscanf __isoc23_wcstoimax __isoc23_wcstol __isoc23_wcstol_l",
     "__isoc23_wcstoll __isoc23_wcstoll_l __isoc23_wcstoul __isoc23_wcstoul_l __isoc23_wcstoull",
     "__isoc23_wcstoull_l __isoc23_wcstoumax __isoc23_wscanf __strlcat_chk __strlcpy_chk",
     "__wcslcat_chk __wcslcpy_chk strlcat strlcpy wcslcat wcslcpy"]),
   ("GLIBC_2.39",
    ["pidfd_getpid pidfd_spawn pidfd_spawnp posix_spawnattr_getcgroup_np",
     "posix_spawnattr_setcgroup_np stdc_bit_ceil_uc stdc_bit_ceil_ui stdc_bit_ceil_ul",
     "stdc_bit_ceil_ull stdc_bit_ceil_us stdc_bit_floor_uc stdc_bit_floor_ui stdc_bit_floor_ul",
     "stdc_bit_floor_ull stdc_bit_floor_us stdc_bit_width_uc stdc_bit_width_ui stdc_bit_width_ul",
     "stdc_bit_width_ull stdc_bit_width_us stdc_count_ones_uc stdc_count_ones_ui",
     "stdc_count_ones_ul stdc_count_ones_ull stdc_count_ones_us stdc_count_zeros_uc",
     "stdc_count_zeros_ui stdc_count_zeros_ul stdc_count_zeros_ull stdc_count_zeros_us",
     "stdc_first_leading_one_uc stdc_first_leading_one_ui stdc_first_leading_one_ul",
     "stdc_first_leading_one_ull stdc_first_leading_one_us stdc_first_leading_zero_uc",
     "stdc_first_leading_zero_ui stdc_first_leading_zero_ul stdc_first_leading_zero_ull",
     "stdc_first_leading_zero_us stdc_first_trailing_one_uc stdc_first_trailing_one_ui",
     "stdc_first_trailing_one_ul stdc_first_trailing_one_ull stdc_first_trailing_one_us",
     "stdc_first_trailing_zero_uc stdc_first_trailing_zero_ui stdc_first_trailing_zero_ul",
     "stdc_first_trailing_zero_ull stdc_first_trailing_zero_us stdc_has_single_bit_uc",
     "stdc_has_single_bit_ui stdc_has_single_bit_ul stdc_has_single_bit_ull",
     "stdc_has_single_bit_us stdc_leading_ones_uc stdc_leading_ones_ui stdc_leading_ones_ul",
     "stdc_leading_ones_ull stdc_leading_ones_us stdc_leading_zeros_uc stdc_leading_zeros_ui",
     "stdc_leading_zeros_ul stdc_leading_zeros_ull stdc_leading_zeros_us stdc_trailing_ones_uc",
     "stdc_trailing_ones_ui stdc_trailing_ones_ul stdc_trailing_ones_ull stdc_trailing_ones_us",
     "stdc_trailing_zeros_uc stdc_trailing_zeros_ui stdc_trailing_zeros_ul",
     "stdc_trailing_zeros_ull stdc_trailing_zeros_us"])]

/-- Names whose meaning is gone: they are found only together with their version. -/
def retiredNames : List String :=
  ["__cpu_indicator_init",
   "__cpu_model",
   "__rtld_version_placeholder",
   "pthread_mutex_consistent_np",
   "pthread_mutexattr_getrobust_np",
   "pthread_mutexattr_setrobust_np",
   "xdr_quad_t",
   "xdr_u_quad_t"]

end ScriptHost.Library.System
